import AdvancedSignature.Proofs.Layout.Legality
import AdvancedSignature.Proofs.Scan.Signature

/-!
# Targets of scanned properties

A scanned property points at references by their identifiers.  In a document that is scanned these
identifiers are unambiguous: what an accepted property points at is one signed reference of its own
signature, and nothing else in the document has that identifier, under whatever name
(`Document.scan_identifies`).
-/

namespace AdvancedSignature

open Xml (Node Path ListsInOrder IsFirst Document)

/-- In a layout that is accepted the targets of data-object properties are references. -/
theorem PropertyLayout.mem_references_of_check {l : PropertyLayout} (h : l.check = .ok ())
    {e : LayoutEntry} (he : e ∈ l.entries) (hlevel : e.kind.isSignatureLevel = false) {t : String}
    (ht : t ∈ e.targets) : t ∈ l.references :=
  (isLegal_of_check h).resolved e he hlevel t ht

namespace Scan

/-! ## Which errors a scan gives -/

theorem missingAttribute_of_requiredAttribute {n : Node} {element name : String} {e : Error}
    (h : requiredAttribute n element name = .error e) : ∃ text, e = .missingAttribute text := by
  unfold requiredAttribute at h
  split at h
  · cases h
  · cases h
    exact ⟨_, rfl⟩

/-- A property that cannot be read lacks an attribute. -/
theorem missingAttribute_of_entry {container : PropertyGroup} {property : Node} {e : Error}
    (h : entry container property = .error e) : ∃ text, e = .missingAttribute text := by
  unfold entry at h
  split at h
  · cases h
  · rcases bind_eq_error_iff.1 h with h | ⟨target, -, h⟩
    · exact missingAttribute_of_requiredAttribute h
    · cases h
  · refine of_foldlM_eq_error (P := fun e => ∃ text, e = .missingAttribute text)
      (fun i _ f e' h' => ?_) h
    rcases bind_eq_error_iff.1 h' with h' | ⟨target, -, h'⟩
    · exact missingAttribute_of_requiredAttribute h'
    · cases h'
  · cases h

theorem unresolvedTarget_of_checkTarget {qualifying : Node} {id : Option String} {e : Error}
    (h : checkTarget qualifying id = .error e) : ∃ text, e = .unresolvedTarget text := by
  unfold checkTarget at h
  split at h
  · split_ifs at h
    cases h
    exact ⟨_, rfl⟩
  · cases h

/-- Only references of one identifier are taken for a data object that stands twice. -/
theorem not_nodup_of_signature {s : Node} {reference : String}
    (h : signature s = .error (.duplicateDataObject reference)) :
    ∃ path signedInfo, IsFirst (SignedInfoAt s) path signedInfo ∧
      ¬ (referenceIds signedInfo).Nodup := by
  cases hinfo : s.child? dsigNamespace ElementName.signedInfo with
  | none => simp [signature, hinfo] at h
  | some signedInfo =>
    obtain ⟨path, hfirst⟩ := child?_signedInfo_eq_some_iff.1 hinfo
    refine ⟨path, signedInfo, hfirst, fun hnodup => ?_⟩
    -- whatever else fails gives another error
    simp only [signature, hinfo, distinctIds_eq_ok_iff.2 ⟨rfl, hnodup⟩, ok_bind] at h
    split at h
    · cases h
    · rcases bind_eq_error_iff.1 h with h | ⟨_, -, h⟩
      · obtain ⟨_, ⟨⟩⟩ := unresolvedTarget_of_checkTarget h
      rcases bind_eq_error_iff.1 h with h | ⟨_, -, h⟩
      · obtain ⟨_, _, _, _, _, h⟩ := mapM_eq_error_iff.1 h
        obtain ⟨_, ⟨⟩⟩ := missingAttribute_of_entry h
      · cases h

/-- Only properties of data objects point at references. -/
theorem Describes.isSignatureLevel_eq_false {container : PropertyGroup} {property : Node}
    {e : LayoutEntry} (h : Describes container property e) {t : String} (ht : t ∈ e.targets) :
    e.kind.isSignatureLevel = false := by
  cases h with
  | commitment | format | timeStamp => rfl
  | commitmentForAll | plain | unknown => cases ht

end Scan

namespace Xml.Document

variable {d : Document} {path : Path} {s : Node}

/-- The text identifies one signed reference of the signature at the place, and nothing else in the
document. -/
def IdentifiesReference (d : Document) (path : Path) (s : Node) (t : String) : Prop :=
  ∃ toInfo signedInfo toReference, IsFirst (Scan.SignedInfoAt s) toInfo signedInfo ∧
    Scan.ReferenceAt signedInfo toReference t ∧
      (∀ other, Scan.ReferenceAt signedInfo other t → other = toReference) ∧
        ∀ place name, d.CarriesAt place name t ↔
          place = path ++ (toInfo ++ toReference) ∧ name = AttributeName.id

/-- A signed reference of a signature carries its identifier. -/
theorem carriesAt_of_referenceAt (hs : d.SignatureAt path s) {toInfo toReference : Path}
    {signedInfo : Node} (hinfo : Scan.SignedInfoAt s toInfo signedInfo) {t : String}
    (ht : Scan.ReferenceAt signedInfo toReference t) :
    d.CarriesAt (path ++ (toInfo ++ toReference)) AttributeName.id t := by
  obtain ⟨r, hr, -, hid⟩ := ht
  refine ⟨r, ⟨?_, ?_⟩, by decide, hid⟩
  · rw [nodeAt?_append hs.1, Node.descend?_append hinfo.descend?_eq, hr.descend?_eq]
  · exact Node.isElement_of_isNamed hr.holds

/-- Under distinct identifiers no signature has two references of one identifier. -/
theorem nodup_referenceIds (h : d.HasDistinctIdentifiers) (hs : d.SignatureAt path s)
    {toInfo : Path} {signedInfo : Node} (hinfo : Scan.SignedInfoAt s toInfo signedInfo) :
    (Scan.referenceIds signedInfo).Nodup := by
  refine Scan.nodup_referenceIds_iff.2 fun place other id hplace hother => ?_
  have hsame := (h _ _ _ _ id (carriesAt_of_referenceAt hs hinfo hplace)
    (carriesAt_of_referenceAt hs hinfo hother)).1
  exact List.append_cancel_left (List.append_cancel_left hsame)

theorem hasDistinctIdentifiers_of_scan {results : List ScannedSignature}
    (h : d.scan = .ok results) : d.HasDistinctIdentifiers :=
  (scan_eq_ok_iff.1 h).1

/-- **What an accepted property points at is one reference of its own signature.** -/
theorem scan_identifies (d : Document) :
    (∀ reference, d.scan ≠ .error (.duplicateDataObject reference)) ∧
    ∀ results, d.scan = .ok results →
      (∀ r ∈ results, ∃ path s, d.SignatureAt path s ∧ Scan.signature s = .ok r) ∧
      ∀ path s r, d.SignatureAt path s → Scan.signature s = .ok r →
        r.layout.references.Nodup ∧
        (r.check = .ok () → ∀ e ∈ r.layout.entries, ∀ t ∈ e.targets,
          d.IdentifiesReference path s t) := by
  refine ⟨fun reference h => ?_, fun results h => ?_⟩
  · rcases bind_eq_error_iff.1 h with h | ⟨map, hmap, h⟩
    · obtain ⟨_, ⟨⟩⟩ := xmlParse_of_idMap h
    · have hdistinct := d.exists_idMap_iff.1 ⟨map, hmap⟩
      obtain ⟨before, s, after, hsplit, -, hfails⟩ := mapM_eq_error_iff.1 h
      have hmem : s ∈ d.signatureElements := by simp [hsplit]
      obtain ⟨path, hs⟩ := d.listsInOrder_signatureElements.mem_iff.1 hmem
      obtain ⟨toInfo, signedInfo, hfirst, hnodup⟩ := Scan.not_nodup_of_signature hfails
      exact hnodup (nodup_referenceIds hdistinct hs hfirst.1)
  · have hdistinct := hasDistinctIdentifiers_of_scan h
    refine ⟨fun r hr => ?_, fun path s r hs hr => ?_⟩
    · rw [scan_eq_mapM hdistinct] at h
      obtain ⟨s, hmem, hs⟩ := exists_of_forall₂ (mapM_eq_ok_iff.1 h) hr
      obtain ⟨path, hpath⟩ := d.listsInOrder_signatureElements.mem_iff.1 hmem
      exact ⟨path, s, hpath, hs⟩
    · have hreads := Scan.reads_of_signature hr
      obtain ⟨toInfo, signedInfo, hfirst⟩ := (Scan.exists_signature_iff.1 ⟨r, hr⟩).signedInfo
      have hlists := hreads.references toInfo signedInfo hfirst
      have hnodup : r.layout.references.Nodup := by
        rw [hlists.unique (Scan.listsInOrder_referenceIds signedInfo)]
        exact nodup_referenceIds hdistinct hs hfirst.1
      refine ⟨hnodup, fun hcheck e he t ht => ?_⟩
      obtain ⟨_, _, hdescribes⟩ := hreads.exists_describes he
      have hlevel := hdescribes.isSignatureLevel_eq_false ht
      obtain ⟨toReference, hreference⟩ :=
        hlists.mem_iff.1 (PropertyLayout.mem_references_of_check hcheck he hlevel ht)
      have hcarries := carriesAt_of_referenceAt hs hfirst.1 hreference
      refine ⟨toInfo, signedInfo, toReference, hfirst, hreference, fun other hother => ?_,
        fun place name => ⟨fun h => hdistinct _ _ _ _ t h hcarries, ?_⟩⟩
      · exact hlists.nodup_iff.1 hnodup other toReference t hother hreference
      · rintro ⟨rfl, rfl⟩
        exact hcarries

/-- The format of a data object in a document with two signatures points at the reference of the
outer one. -/
theorem identifiesReference_countersigned :
    (∃ results, countersigned.scan = .ok results) ∧
      ∃ s, countersigned.SignatureAt [0] s ∧ countersigned.IdentifiesReference [0] s "R" := by
  refine ⟨⟨_, rfl⟩, _, ⟨rfl, by decide⟩, ?_⟩
  obtain ⟨-, hscan⟩ := scan_identifies countersigned
  obtain ⟨-, hsignature⟩ := hscan _ rfl
  obtain ⟨-, hcheck⟩ := hsignature [0] _ _ ⟨rfl, by decide⟩ rfl
  exact hcheck rfl ⟨.dataObjectFormat, .signedDataObject, ["R"]⟩ List.mem_cons_self "R"
    List.mem_cons_self

end Xml.Document

end AdvancedSignature
