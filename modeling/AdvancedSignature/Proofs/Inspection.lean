import AdvancedSignature.Command
import AdvancedSignature.Proofs.Form.Detection
import AdvancedSignature.Proofs.Layout.Legality
import AdvancedSignature.Proofs.Scan.Signature

/-!
# The verdict of an inspection

The exit code of an inspection is all that a script looks at.  It sums up whether the file can be
read at all and what two checks say of each of its signatures, one of which asks only which kinds
there are and the other only where they stand.

* `ScannedSignature.IsAccepted` is the verdict on one signature.  With it a required kind stands in
  the container of its own group (`ScannedSignature.IsAccepted.exists_entry`), and so does an
  element of that kind in the document (`Scan.Reads.holdsInPlace`).
* `Xml.Document.IsAccepted` is the verdict on a document, in terms of what stands in it.
* `Command.exitCode_inspectContent_iff` and `Command.report_inspectContent` say what becomes of the
  results of a scan.
* `Command.inspect_verdict` puts the three together.
-/

namespace AdvancedSignature

open Xml (Node Path ListsInOrder IsFirst Document)

/-! ## Signatures -/

namespace ScannedSignature

variable {s : ScannedSignature} {required : Option SignatureForm}

/-- The structure is right, and the signature has the form that is required. -/
structure IsAccepted (s : ScannedSignature) (required : Option SignatureForm) : Prop where
  check : s.check = .ok ()
  form : ∀ f, required = some f → f.check s.layout.kinds = .ok ()

theorem passes_iff : s.passes required = true ↔ s.IsAccepted required := by
  have hok (x : Except Error Unit) : x.isOk = true ↔ x = .ok () := by
    cases x <;> simp [Except.isOk, Except.toBool]
  rw [passes, Bool.and_eq_true, hok, Option.all_eq_true]
  simp only [hok]
  exact ⟨fun h => ⟨h.1, h.2⟩, fun h => ⟨h.check, h.form⟩⟩

/-- A kind that is required occurs in the container of its own group: the form check finds it, and
the structure check has found nothing misplaced. -/
theorem IsAccepted.exists_entry {f : SignatureForm} (h : s.IsAccepted (some f)) {k : PropertyKind}
    (hk : k ∈ f.requiredKinds) : ∃ e ∈ s.layout.entries, e.kind = k ∧ e.container = k.group := by
  have hmem : k ∈ s.layout.kinds := SignatureForm.check_eq_ok_iff.1 (h.form f rfl) hk
  obtain ⟨e, he, rfl⟩ := List.mem_map.1 hmem
  exact ⟨e, he, rfl, (PropertyLayout.isLegal_of_check h.check).inPlace e he⟩

end ScannedSignature

theorem PropertyGroup.isOther_otherKind (g : PropertyGroup) : g.otherKind.isOther = true := by
  cases g <;> rfl

namespace Scan

/-- A property of the kind stands in the container of its group. -/
def HoldsInPlace (s : Node) (k : PropertyKind) : Prop :=
  ∃ path qualifying place property, IsFirst (QualifyingAt s) path qualifying ∧
    PropertyAt qualifying place (k.group, property) ∧ IsOfKind k property

/-- What has an entry of a known kind is of that kind. -/
theorem Describes.isOfKind {container : PropertyGroup} {property : Node} {e : LayoutEntry}
    (h : Describes container property e) (he : e.kind.isOther = false) :
    IsOfKind e.kind property := by
  cases h with
  | commitment hkind | commitmentForAll hkind | format hkind | timeStamp hkind | plain hkind =>
    exact hkind
  | unknown =>
    rw [container.isOther_otherKind] at he
    cases he

/-- A kind that is required of an accepted signature stands there in place. -/
theorem Reads.holdsInPlace {s : Node} {r : ScannedSignature} (h : Reads s r) {f : SignatureForm}
    (haccepted : r.IsAccepted (some f)) {k : PropertyKind} (hk : k ∈ f.requiredKinds) :
    HoldsInPlace s k := by
  have hknown : ∀ k ∈ f.requiredKinds, k.isOther = false := by cases f <;> decide
  obtain ⟨e, he, rfl, hcontainer⟩ := haccepted.exists_entry hk
  obtain ⟨path, qualifying, place, property, hfirst, hplace, hdescribes⟩ := h.exists_propertyAt he
  exact ⟨path, qualifying, place, property, hfirst, hcontainer ▸ hplace,
    hdescribes.isOfKind (hknown _ hk)⟩

end Scan

/-! ## Documents -/

namespace Xml.Document

variable {d : Document} {required : Option SignatureForm}

/-- The content is the text of the document in UTF-8, which is well-formed with this tree. -/
structure HasContent (d : Document) (content : Bytes) : Prop where
  text : Bytes.toString? content = some d.text
  nodes : nodesOf? d.text = some d.nodes

theorem ofBytes_eq_ok_iff {content : Bytes} : ofBytes content = .ok d ↔ d.HasContent content := by
  constructor
  · intro h
    unfold ofBytes at h
    split at h
    · next text htext =>
      unfold parse at h
      split at h
      · next nodes hnodes =>
        cases h
        exact ⟨htext, hnodes⟩
      · cases h
    · cases h
  · rintro ⟨htext, hnodes⟩
    rw [ofBytes, htext]
    show parse d.text = .ok d
    rw [parse, hnodes]

/-- The content determines the document. -/
theorem HasContent.unique {content : Bytes} {d' : Document} (h : d.HasContent content)
    (h' : d'.HasContent content) : d = d' := by
  rw [← ofBytes_eq_ok_iff] at h h'
  exact Except.ok.inj (h.symm.trans h')

/-- A well-formed text is the content of its document. -/
theorem hasContent_ofString {text : String} (h : parse text = .ok d) :
    d.HasContent (Bytes.ofString text) := by
  rw [← ofBytes_eq_ok_iff, ofBytes, Bytes.toString?_ofString]
  exact h

/-- No identifier stands twice, there are signatures, and all can be read and are accepted. -/
structure IsAccepted (d : Document) (required : Option SignatureForm) : Prop where
  distinct : d.HasDistinctIdentifiers
  signed : ∃ path s, d.SignatureAt path s
  accepted : ∀ path s, d.SignatureAt path s →
    ∃ r, Scan.signature s = .ok r ∧ r.IsAccepted required

theorem isAccepted_iff_signatureElements :
    d.IsAccepted required ↔ d.HasDistinctIdentifiers ∧ d.signatureElements ≠ [] ∧
      ∀ s ∈ d.signatureElements, ∃ r, Scan.signature s = .ok r ∧ r.IsAccepted required := by
  have hlists := d.listsInOrder_signatureElements
  have hsigned : d.signatureElements ≠ [] ↔ ∃ path s, d.SignatureAt path s := by
    simp [hlists.eq_nil_iff]
  simp only [hsigned, hlists.mem_iff]
  constructor
  · intro h
    exact ⟨h.distinct, h.signed, fun s ⟨path, hs⟩ => h.accepted path s hs⟩
  · rintro ⟨hdistinct, hsigned, haccepted⟩
    exact ⟨hdistinct, hsigned, fun path s hs => haccepted s ⟨path, hs⟩⟩

/-- A document is accepted when a scan finds signatures and accepts them all. -/
theorem isAccepted_iff :
    d.IsAccepted required ↔
      ∃ results, d.scan = .ok results ∧ results ≠ [] ∧ ∀ r ∈ results, r.IsAccepted required := by
  rw [isAccepted_iff_signatureElements, ← exists_forall₂_iff]
  simp only [forall₂_and_right, scan_eq_ok_iff]
  constructor
  · rintro ⟨hdistinct, hne, results, hread, haccepted⟩
    refine ⟨results, ⟨hdistinct, hread⟩, ?_, haccepted⟩
    rintro rfl
    exact hne (List.forall₂_nil_right_iff.1 hread)
  · rintro ⟨results, ⟨hdistinct, hread⟩, hne, haccepted⟩
    refine ⟨hdistinct, fun hnil => hne ?_, results, hread, haccepted⟩
    rw [hnil] at hread
    exact List.forall₂_nil_left_iff.1 hread

end Xml.Document

/-! ## Reports -/

theorem Report.ofLines_append (lines more : List String) :
    ofLines (lines ++ more) = ofLines lines ++ ofLines more := by
  simp [ofLines]

/-- Texts made of lines are, one after the other, the text made of all the lines. -/
theorem Report.join_map_ofLines {α : Type} (lines : α → List String) (l : List α) :
    String.join (l.map fun a => ofLines (lines a)) = ofLines (l.flatMap lines) := by
  induction l with
  | nil => rfl
  | cons a rest ih =>
    rw [List.map_cons, String.join_cons, ih, List.flatMap_cons, ofLines_append]

/-! ## The command -/

namespace Command

variable {file : String} {content : Except Error Bytes} {required : Option SignatureForm}

/-- Signatures are found in the content of a file when it is read and is that of a document that can
be scanned. -/
theorem bind_signaturesOf_eq_ok_iff {results : List ScannedSignature} :
    content.bind signaturesOf = .ok results ↔
      ∃ bytes d, content = .ok bytes ∧ Document.HasContent d bytes ∧ d.scan = .ok results := by
  have hdocument (bytes : Bytes) : signaturesOf bytes = .ok results ↔
      ∃ d, Document.HasContent d bytes ∧ d.scan = .ok results := by
    simp only [signaturesOf, bind_eq_ok_iff, Document.ofBytes_eq_ok_iff]
  refine bind_eq_ok_iff.trans (exists_congr fun bytes => ?_)
  simp only [hdocument, exists_and_left]

theorem exitCode_inspectContent_iff_results :
    (inspectContent file content required).exitCode = 0 ↔
      ∃ results, content.bind signaturesOf = .ok results ∧ results ≠ [] ∧
        ∀ r ∈ results, r.IsAccepted required := by
  rw [inspectContent]
  cases content.bind signaturesOf with
  | error e => simp
  | ok results =>
    cases results with
    | nil => simp
    | cons r rest => simp [inspectSignatures, ← ScannedSignature.passes_iff]

/-- The exit code is zero when the content is that of a document that is accepted. -/
theorem exitCode_inspectContent_iff :
    (inspectContent file content required).exitCode = 0 ↔
      ∃ bytes d, content = .ok bytes ∧ Document.HasContent d bytes ∧ d.IsAccepted required := by
  rw [exitCode_inspectContent_iff_results]
  simp only [bind_signaturesOf_eq_ok_iff, Document.isAccepted_iff]
  constructor
  · rintro ⟨results, ⟨bytes, d, hread, hcontent, hscan⟩, hverdict⟩
    exact ⟨bytes, d, hread, hcontent, results, hscan, hverdict⟩
  · rintro ⟨bytes, d, hread, hcontent, results, hscan, hverdict⟩
    exact ⟨results, ⟨bytes, d, hread, hcontent, hscan⟩, hverdict⟩

theorem exitCode_inspectContent_le : (inspectContent file content required).exitCode ≤ 1 := by
  rw [inspectContent]
  split
  · exact Nat.le_refl 1
  · exact Nat.le_refl 1
  · rw [inspectSignatures]
    split_ifs
    · exact Nat.zero_le 1
    · exact Nat.le_refl 1

/-- The report is on all signatures that are scanned, whether they pass or not. -/
theorem report_inspectContent {results : List ScannedSignature}
    (h : content.bind signaturesOf = .ok results) :
    (inspectContent file content required).report =
      Report.ofLines (results.zipIdx.flatMap fun r => r.1.reportLines r.2 required) := by
  rw [← Report.join_map_ofLines, inspectContent, h]
  cases results <;> rfl

/-- **The exit code of an inspection is a sound verdict.**  It is zero if and only if the file can
be read, is a document and the document is accepted; otherwise it is one.  Whenever the scan
succeeds there is a report on each signature, in document order and whatever the verdict on those
before it.  With the exit code zero, each kind that the form requires stands in every signature, in
the container of its own group. -/
theorem inspect_verdict (read : String → Except Error Bytes) (file : String)
    (required : Option SignatureForm) :
    let outcome : CommandOutcome := (Command.inspect file required).run (m := Id) read
    (outcome.exitCode = 0 ↔
      ∃ content d, read file = .ok content ∧ Document.HasContent d content ∧
        d.IsAccepted required) ∧
    (outcome.exitCode = 0 ∨ outcome.exitCode = 1) ∧
    (∀ content d results, read file = .ok content → Document.HasContent d content →
      d.scan = .ok results →
        (∃ signatures, ListsInOrder d.SignatureAt signatures ∧
          List.Forall₂ (fun s r => Scan.signature s = .ok r) signatures results) ∧
        outcome.report =
          Report.ofLines (results.zipIdx.flatMap fun r => r.1.reportLines r.2 required)) ∧
    ∀ f, required = some f → outcome.exitCode = 0 →
      ∀ content d, read file = .ok content → Document.HasContent d content →
        ∀ path s, d.SignatureAt path s → ∀ k ∈ f.requiredKinds, Scan.HoldsInPlace s k := by
  intro outcome
  refine ⟨exitCode_inspectContent_iff,
    Nat.le_one_iff_eq_zero_or_eq_one.1 exitCode_inspectContent_le,
    fun content d results hread hcontent hscan => ⟨?_, ?_⟩, ?_⟩
  · exact ⟨_, d.listsInOrder_signatureElements, (Document.scan_eq_ok_iff.1 hscan).2⟩
  · exact report_inspectContent
      (bind_signaturesOf_eq_ok_iff.2 ⟨content, d, hread, hcontent, hscan⟩)
  · rintro f rfl hexit content d hread hcontent path s hs k hk
    obtain ⟨content', d', hread', hcontent', haccepted⟩ := exitCode_inspectContent_iff.1 hexit
    obtain rfl : content = content' := Except.ok.inj (hread.symm.trans hread')
    obtain rfl : d = d' := hcontent.unique hcontent'
    obtain ⟨r, hr, hverdict⟩ := haccepted.accepted path s hs
    exact (Scan.reads_of_signature hr).holdsInPlace hverdict hk

/-- The text of a signature that has a certificate among its signed properties and nothing else. -/
def basicText : String :=
  "<Signature xmlns='http://www.w3.org/2000/09/xmldsig#' Id='S'>
    <SignedInfo/>
    <Object>
      <QualifyingProperties xmlns='http://uri.etsi.org/01903/v1.3.2#' Target='#S'>
        <SignedProperties>
          <SignedSignatureProperties>
            <SigningCertificate/>
          </SignedSignatureProperties>
        </SignedProperties>
      </QualifyingProperties>
    </Object>
  </Signature>"

/-- What a scan finds in it. -/
def basicSignature : ScannedSignature :=
  ⟨some "S", true, ⟨[], [⟨.signingCertificate, .signedSignature, []⟩]⟩⟩

set_option maxRecDepth 4000 in
theorem scan_basicText :
    (Document.parse basicText >>= fun d => d.scan) = .ok [basicSignature] := by
  -- a literal is evaluated much faster when it is a list of characters
  rw [show basicText = String.ofList _ from rfl, Document.parse, Document.nodesOf?,
    String.toList_ofList]
  decide +kernel

/-- The signature passes as a basic one, with its certificate in place.  As one with a time-stamp it
fails, and the report says why. -/
theorem inspect_verdict_of_basicText :
    let content : Bytes := Bytes.ofString basicText
    let outcome (f : SignatureForm) : CommandOutcome :=
      (Command.inspect "basic.xml" (some f)).run (m := Id) fun _ => .ok content
    ∃ d, Document.HasContent d content ∧ (outcome .bes).exitCode = 0 ∧
      (∀ path s, d.SignatureAt path s → Scan.HoldsInPlace s .signingCertificate) ∧
      (outcome .t).exitCode = 1 ∧
      (outcome .t).report = Report.ofLines
        ["Signature 0 (Id S)", "  references: ",
          "  SignedSignatureProperties      SigningCertificate", "  structure: OK", "  form: BES",
          "  required form T: signature form T requires a SignatureTimeStamp property"] := by
  obtain ⟨d, hparse, hscan⟩ := bind_eq_ok_iff.1 scan_basicText
  have haccepted (f : SignatureForm) :
      d.IsAccepted (some f) ↔ basicSignature.passes (some f) = true := by
    rw [Document.isAccepted_iff, hscan, ScannedSignature.passes_iff]
    simp
  -- from here on the bytes are any that have the content, so that nothing evaluates them
  obtain ⟨bytes, hbytes, hcontent⟩ :
      ∃ bytes, bytes = Bytes.ofString basicText ∧ d.HasContent bytes :=
    ⟨_, rfl, Document.hasContent_ofString hparse⟩
  rw [← hbytes]
  intro content outcome
  obtain ⟨hbasic, -, -, hinPlace⟩ :=
    inspect_verdict (fun _ => .ok content) "basic.xml" (some .bes)
  obtain ⟨hstamped, hcode, hreport, -⟩ :=
    inspect_verdict (fun _ => .ok content) "basic.xml" (some .t)
  have hpasses : (outcome .bes).exitCode = 0 :=
    hbasic.2 ⟨content, d, rfl, hcontent, (haccepted .bes).2 (by decide)⟩
  refine ⟨d, hcontent, hpasses, fun path element helement => ?_, ?_, ?_⟩
  · exact hinPlace .bes rfl hpasses content d rfl hcontent path element helement _ (by decide)
  · refine hcode.resolve_left fun hexit => ?_
    obtain ⟨content', d', hread, hcontent', h⟩ := hstamped.1 hexit
    obtain rfl : content = content' := Except.ok.inj hread
    obtain rfl : d = d' := hcontent.unique hcontent'
    exact absurd ((haccepted .t).1 h) (by decide)
  · rw [(hreport content d [basicSignature] rfl hcontent hscan).2]
    decide +kernel

/-- A certificate among the unsigned properties gives a signature its form but does not let it
pass. -/
example :
    let holding (container : PropertyGroup) : ScannedSignature :=
      ⟨some "S", true, ⟨["R"], [⟨.signingCertificate, container, []⟩]⟩⟩
    (holding .unsignedSignature).form? = some .bes ∧
      (inspectSignatures [holding .signedSignature] (some .bes)).exitCode = 0 ∧
        (inspectSignatures [holding .unsignedSignature, holding .signedSignature]
          (some .bes)).exitCode = 1 := by
  decide +kernel

end Command

end AdvancedSignature
