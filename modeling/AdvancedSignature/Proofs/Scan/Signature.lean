import AdvancedSignature.Proofs.Scan.Property
import AdvancedSignature.Proofs.Xml.Identifier

/-!
# Scanned signatures

What a scan reads off a document, and off which documents.

* `Scan.SignedInfoAt`, `Scan.ReferenceAt` and `Scan.QualifyingAt` say where in a signature the scan
  looks; of several elements only the first counts.
* `Scan.IsReadable` lists what a signature must have for its layout to be read, and `Scan.Reads`
  what is read then.
* `Xml.Document.scan_reads` puts the signatures of a document together.
-/

namespace AdvancedSignature

open Xml (Node Path ListsInOrder IsFirst Document)
open Xml.Node (ChildAt listsInOrder_children)

namespace Scan

/-! ## Where the scan looks -/

/-- Where a signature says what it signs. -/
def SignedInfoAt (s : Node) (path : Path) (signedInfo : Node) : Prop :=
  ChildAt (Node.isNamed dsigNamespace ElementName.signedInfo) s path signedInfo

/-- Where a signed reference with the identifier stands.  The reference to the signed properties is
told by its type. -/
def ReferenceAt (signedInfo : Node) (path : Path) (id : String) : Prop :=
  ∃ r, ChildAt (Node.isNamed dsigNamespace ElementName.reference) signedInfo path r ∧
    r.attribute? AttributeName.type ≠ some signedPropertiesType ∧
      r.attribute? AttributeName.id = some id

/-- Where qualifying properties stand inside an object of a signature. -/
def QualifyingAt (s : Node) (path : Path) (qualifying : Node) : Prop :=
  ∃ toObject toQualifying object, path = toObject ++ toQualifying ∧
    ChildAt (Node.isNamed dsigNamespace ElementName.object) s toObject object ∧
      ChildAt (isXadesNamed ElementName.qualifyingProperties) object toQualifying qualifying

variable {s : Node}

theorem listsInOrder_signedInfo (s : Node) :
    ListsInOrder (SignedInfoAt s)
      (s.children.filter (Node.isNamed dsigNamespace ElementName.signedInfo)) :=
  listsInOrder_children _ s

theorem child?_signedInfo_eq_some_iff {signedInfo : Node} :
    s.child? dsigNamespace ElementName.signedInfo = some signedInfo ↔
      ∃ path, IsFirst (SignedInfoAt s) path signedInfo := by
  rw [Node.child?, ← List.head?_filter, (listsInOrder_signedInfo s).head?_eq_some_iff]

theorem listsInOrder_referenceIds (signedInfo : Node) :
    ListsInOrder (ReferenceAt signedInfo) (referenceIds signedInfo) := by
  refine ((listsInOrder_children _ signedInfo).filterMap _).congr fun path id => ?_
  refine exists_congr fun r => and_congr_right fun _ => ?_
  split_ifs with htype
  · simp [htype]
  · simp [htype]

theorem listsInOrder_qualifying (s : Node) :
    ListsInOrder (QualifyingAt s)
      ((s.childrenNamed dsigNamespace ElementName.object).flatMap fun object =>
        object.children.filter (isXadesNamed ElementName.qualifyingProperties)) :=
  (listsInOrder_children _ s).flatMap 1 (fun _ _ h => h.length_eq)
    fun object _ => listsInOrder_children _ object

theorem qualifyingProperties?_eq_some_iff {qualifying : Node} :
    qualifyingProperties? s = some qualifying ↔
      ∃ path, IsFirst (QualifyingAt s) path qualifying := by
  rw [← (listsInOrder_qualifying s).head?_eq_some_iff, List.head?_flatMap, qualifyingProperties?]
  simp only [List.head?_filter]

theorem qualifyingProperties?_eq_none_iff :
    qualifyingProperties? s = none ↔ ∀ path qualifying, ¬ QualifyingAt s path qualifying := by
  rw [← (listsInOrder_qualifying s).head?_eq_none_iff, List.head?_flatMap, qualifyingProperties?]
  simp only [List.head?_filter]

/-! ## Readings -/

/-- Qualifying properties that name a signature as their target name this one. -/
def Qualifies (qualifying : Node) (id : Option String) : Prop :=
  ∀ target signatureId, qualifying.attribute? AttributeName.target = some target →
    id = some signatureId → target = "#" ++ signatureId

/-- A layout can be read off the signature. -/
structure IsReadable (s : Node) : Prop where
  /-- The signature says what it signs. -/
  signedInfo : ∃ path signedInfo, IsFirst (SignedInfoAt s) path signedInfo
  /-- No two references have one identifier. -/
  distinct : ∀ path signedInfo, IsFirst (SignedInfoAt s) path signedInfo →
    ∀ place other id, ReferenceAt signedInfo place id → ReferenceAt signedInfo other id →
      place = other
  /-- The qualifying properties are those of the signature. -/
  qualifies : ∀ path qualifying, IsFirst (QualifyingAt s) path qualifying →
    Qualifies qualifying (s.attribute? AttributeName.id)
  /-- The properties point at data objects where they have to. -/
  pointers : ∀ path qualifying, IsFirst (QualifyingAt s) path qualifying →
    ∀ place x, PropertyAt qualifying place x → HasPointers x.2

/-- What is read off the signature. -/
structure Reads (s : Node) (r : ScannedSignature) : Prop where
  id : r.id = s.attribute? AttributeName.id
  isQualified : r.isQualified = true ↔ ∃ path qualifying, QualifyingAt s path qualifying
  /-- The identifiers of the signed references. -/
  references : ∀ path signedInfo, IsFirst (SignedInfoAt s) path signedInfo →
    ListsInOrder (ReferenceAt signedInfo) r.layout.references
  /-- Each property of the first qualifying properties has its entry. -/
  entries : ∀ path qualifying, IsFirst (QualifyingAt s) path qualifying →
    ∃ properties, ListsInOrder (PropertyAt qualifying) properties ∧
      List.Forall₂ (fun x e => Describes x.1 x.2 e) properties r.layout.entries
  /-- Without qualifying properties there are no entries. -/
  unqualified : (∀ path qualifying, ¬ QualifyingAt s path qualifying) → r.layout.entries = []

/-! ### Step by step -/

theorem distinctIds_eq_ok_iff {ids distinct : List String} :
    distinctIds ids = .ok distinct ↔ distinct = ids ∧ ids.Nodup := by
  have hstep (seen : List String) (reference : String) :
      (if seen.contains reference then .error (.duplicateDataObject reference)
        else .ok (seen ++ [reference]) : Except Error (List String)) =
      okUnless (repeatFault? id Error.duplicateDataObject seen reference)
        (seen ++ [reference]) := by
    by_cases h : reference ∈ seen <;> simp [repeatFault?, h]
  rw [distinctIds, foldlM_eq_ok_iff_nodup hstep, List.map_id]

theorem checkTarget_eq_ok_iff {qualifying : Node} {id : Option String} {u : Unit} :
    checkTarget qualifying id = .ok u ↔ Qualifies qualifying id := by
  unfold checkTarget Qualifies
  cases qualifying.attribute? AttributeName.target with
  | none => simp
  | some target =>
    cases id with
    | none => simp
    | some signatureId => simp [ite_eq_left_iff]

theorem nodup_referenceIds_iff {signedInfo : Node} :
    (referenceIds signedInfo).Nodup ↔
      ∀ place other id, ReferenceAt signedInfo place id → ReferenceAt signedInfo other id →
        place = other :=
  (listsInOrder_referenceIds signedInfo).nodup_iff

/-- A signature without qualifying properties. -/
theorem signature_eq_ok_iff_of_unqualified {signedInfo : Node} {r : ScannedSignature}
    (hinfo : s.child? dsigNamespace ElementName.signedInfo = some signedInfo)
    (hnone : qualifyingProperties? s = none) :
    signature s = .ok r ↔ (referenceIds signedInfo).Nodup ∧
      ⟨s.attribute? AttributeName.id, false, ⟨referenceIds signedInfo, []⟩⟩ = r := by
  simp only [signature, hinfo, hnone, bind_eq_ok_iff, distinctIds_eq_ok_iff, pure, Except.pure,
    Except.ok.injEq, and_assoc, exists_eq_left]

/-- A signature with qualifying properties. -/
theorem signature_eq_ok_iff_of_qualified {signedInfo qualifying : Node} {r : ScannedSignature}
    (hinfo : s.child? dsigNamespace ElementName.signedInfo = some signedInfo)
    (hsome : qualifyingProperties? s = some qualifying) :
    signature s = .ok r ↔ (referenceIds signedInfo).Nodup ∧
      Qualifies qualifying (s.attribute? AttributeName.id) ∧
        ∃ entries, List.Forall₂ (fun x e => Describes x.1 x.2 e) (propertyElements qualifying)
            entries ∧
          ⟨s.attribute? AttributeName.id, true, ⟨referenceIds signedInfo, entries⟩⟩ = r := by
  simp only [signature, hinfo, hsome, bind_eq_ok_iff, distinctIds_eq_ok_iff, pure, Except.pure,
    Except.ok.injEq, checkTarget_eq_ok_iff, mapM_eq_ok_iff, entry_eq_ok_iff, and_assoc,
    exists_eq_left, exists_const]

/-! ### Signatures -/

/-- What makes a signature readable, once it is known where to look. -/
theorem isReadable_iff {signedInfo : Node}
    (hinfo : s.child? dsigNamespace ElementName.signedInfo = some signedInfo) :
    IsReadable s ↔ (referenceIds signedInfo).Nodup ∧
      ∀ qualifying, qualifyingProperties? s = some qualifying →
        Qualifies qualifying (s.attribute? AttributeName.id) ∧
          ∀ x ∈ propertyElements qualifying, HasPointers x.2 := by
  have hpointers (qualifying : Node) : (∀ x ∈ propertyElements qualifying, HasPointers x.2) ↔
      ∀ place x, PropertyAt qualifying place x → HasPointers x.2 := by
    simp only [(listsInOrder_propertyElements qualifying).mem_iff]
    exact ⟨fun h place x hx => h x ⟨place, hx⟩, fun h x ⟨place, hx⟩ => h place x hx⟩
  simp only [nodup_referenceIds_iff, qualifyingProperties?_eq_some_iff, hpointers]
  obtain ⟨path, hfirst⟩ := child?_signedInfo_eq_some_iff.1 hinfo
  constructor
  · intro h
    exact ⟨h.distinct path signedInfo hfirst, fun qualifying ⟨place, hplace⟩ =>
      ⟨h.qualifies place qualifying hplace, h.pointers place qualifying hplace⟩⟩
  · rintro ⟨hdistinct, hqualifying⟩
    refine ⟨⟨path, signedInfo, hfirst⟩, fun other signedInfo' hother => ?_,
      fun path qualifying h => (hqualifying qualifying ⟨path, h⟩).1,
      fun path qualifying h => (hqualifying qualifying ⟨path, h⟩).2⟩
    rwa [(listsInOrder_signedInfo s).eq_of_isFirst hother hfirst]

/-- **A layout can be read off exactly the readable signatures.** -/
theorem exists_signature_iff : (∃ r, signature s = .ok r) ↔ IsReadable s := by
  cases hinfo : s.child? dsigNamespace ElementName.signedInfo with
  | none =>
    refine iff_of_false (by simp [signature, hinfo]) fun h => ?_
    obtain ⟨path, signedInfo, hfirst⟩ := h.signedInfo
    rw [child?_signedInfo_eq_some_iff.2 ⟨path, hfirst⟩] at hinfo
    cases hinfo
  | some signedInfo =>
    rw [isReadable_iff hinfo]
    cases hqualifying : qualifyingProperties? s with
    | none => simp [signature_eq_ok_iff_of_unqualified hinfo hqualifying]
    | some qualifying =>
      have hentries : (∃ entries, List.Forall₂ (fun x e => Describes x.1 x.2 e)
          (propertyElements qualifying) entries) ↔
          ∀ x ∈ propertyElements qualifying, HasPointers x.2 := by
        simp only [exists_forall₂_iff, ← entry_eq_ok_iff, exists_entry_iff]
      simp only [signature_eq_ok_iff_of_qualified hinfo hqualifying, Option.some.injEq,
        forall_eq', ← hentries]
      constructor
      · rintro ⟨r, hnodup, hqualifies, entries, hdescribes, -⟩
        exact ⟨hnodup, hqualifies, entries, hdescribes⟩
      · rintro ⟨hnodup, hqualifies, entries, hdescribes⟩
        exact ⟨_, hnodup, hqualifies, entries, hdescribes, rfl⟩

/-- What is read off a signature is what stands there. -/
theorem reads_of_signature {r : ScannedSignature} (h : signature s = .ok r) : Reads s r := by
  obtain ⟨path, signedInfo, hfirst⟩ := (exists_signature_iff.1 ⟨r, h⟩).signedInfo
  have hinfo := child?_signedInfo_eq_some_iff.2 ⟨path, hfirst⟩
  have hreferences (path : Path) (other : Node) (hother : IsFirst (SignedInfoAt s) path other) :
      ListsInOrder (ReferenceAt other) (referenceIds signedInfo) := by
    rw [(listsInOrder_signedInfo s).eq_of_isFirst hfirst hother]
    exact listsInOrder_referenceIds other
  cases hqualifying : qualifyingProperties? s with
  | none =>
    have hnone := qualifyingProperties?_eq_none_iff.1 hqualifying
    obtain ⟨-, rfl⟩ := (signature_eq_ok_iff_of_unqualified hinfo hqualifying).1 h
    exact
      { id := rfl
        isQualified := iff_of_false Bool.false_ne_true fun ⟨path, q, hq⟩ => hnone path q hq
        references := hreferences
        entries := fun path q hq => absurd hq.1 (hnone path q)
        unqualified := fun _ => rfl }
  | some qualifying =>
    obtain ⟨place, hplace⟩ := qualifyingProperties?_eq_some_iff.1 hqualifying
    obtain ⟨-, -, entries, hentries, rfl⟩ :=
      (signature_eq_ok_iff_of_qualified hinfo hqualifying).1 h
    have hproperties (path : Path) (other : Node) (hother : IsFirst (QualifyingAt s) path other) :
        ∃ properties, ListsInOrder (PropertyAt other) properties ∧
          List.Forall₂ (fun x e => Describes x.1 x.2 e) properties entries := by
      rw [(listsInOrder_qualifying s).eq_of_isFirst hother hplace]
      exact ⟨_, listsInOrder_propertyElements qualifying, hentries⟩
    exact
      { id := rfl
        isQualified := iff_of_true rfl ⟨place, qualifying, hplace.1⟩
        references := hreferences
        entries := hproperties
        unqualified := fun hnone => absurd hplace.1 (hnone place qualifying) }

/-- Each entry is read off a property, which stands in the container of the entry. -/
theorem Reads.exists_propertyAt {r : ScannedSignature} (h : Reads s r) {e : LayoutEntry}
    (he : e ∈ r.layout.entries) :
    ∃ path qualifying place property, IsFirst (QualifyingAt s) path qualifying ∧
      PropertyAt qualifying place (e.container, property) ∧ Describes e.container property e := by
  cases hqualifying : qualifyingProperties? s with
  | none =>
    rw [h.unqualified (qualifyingProperties?_eq_none_iff.1 hqualifying)] at he
    cases he
  | some qualifying =>
    obtain ⟨path, hfirst⟩ := qualifyingProperties?_eq_some_iff.1 hqualifying
    obtain ⟨properties, hlists, hentries⟩ := h.entries path qualifying hfirst
    obtain ⟨⟨container, property⟩, hmem, hdescribes⟩ := exists_of_forall₂ hentries he
    obtain ⟨place, hplace⟩ := hlists.mem_iff.1 hmem
    obtain rfl : e.container = container := by cases hdescribes <;> rfl
    exact ⟨path, qualifying, place, property, hfirst, hplace, hdescribes⟩

theorem Reads.exists_describes {r : ScannedSignature} (h : Reads s r) {e : LayoutEntry}
    (he : e ∈ r.layout.entries) : ∃ container property, Describes container property e := by
  obtain ⟨_, _, _, property, -, -, hdescribes⟩ := h.exists_propertyAt he
  exact ⟨e.container, property, hdescribes⟩

end Scan

/-! ## Documents -/

namespace Xml.Document

/-- Where a signature stands in the document, at any depth. -/
def SignatureAt (d : Document) (path : Path) (s : Node) : Prop :=
  d.nodeAt? path = some s ∧ s.isNamed dsigNamespace ElementName.signature = true

theorem listsInOrder_signatureElements (d : Document) :
    ListsInOrder d.SignatureAt d.signatureElements := by
  refine (d.listsInOrder_elements.filter _).congr fun path s => ?_
  rw [ElementAt, SignatureAt, and_assoc]
  exact and_congr_right fun _ => and_iff_right_of_imp Node.isElement_of_isNamed

theorem scan_eq_mapM {d : Document} (h : d.HasDistinctIdentifiers) :
    d.scan = d.signatureElements.mapM Scan.signature := by
  obtain ⟨map, hmap⟩ := d.exists_idMap_iff.2 h
  rw [scan, hmap, ok_bind]

/-- A scan that succeeds has read the signatures of the document one by one. -/
theorem scan_eq_ok_iff {d : Document} {results : List ScannedSignature} :
    d.scan = .ok results ↔ d.HasDistinctIdentifiers ∧
      List.Forall₂ (fun s r => Scan.signature s = .ok r) d.signatureElements results := by
  rw [← mapM_eq_ok_iff]
  constructor
  · intro h
    obtain ⟨map, hmap, hresults⟩ := bind_eq_ok_iff.1 h
    exact ⟨d.exists_idMap_iff.1 ⟨map, hmap⟩, hresults⟩
  · rintro ⟨hdistinct, hresults⟩
    rw [scan_eq_mapM hdistinct, hresults]

/-- **A scan reads the layout of every signature, in document order, or fails as the first signature
that cannot be read.**  For each signature it is known whether it can be read and what is read. -/
theorem scan_reads (d : Document) (h : d.HasDistinctIdentifiers) :
    (∃ signatures, ListsInOrder d.SignatureAt signatures ∧
      ((∃ results, d.scan = .ok results ∧
          List.Forall₂ (fun s r => Scan.signature s = .ok r) signatures results) ∨
        ∃ e, d.scan = .error e ∧ FailsFirst Scan.signature signatures e)) ∧
    ∀ s, ((∃ r, Scan.signature s = .ok r) ↔ Scan.IsReadable s) ∧
      ∀ r, Scan.signature s = .ok r → Scan.Reads s r := by
  refine ⟨⟨_, d.listsInOrder_signatureElements, ?_⟩, fun s =>
    ⟨Scan.exists_signature_iff, fun r => Scan.reads_of_signature⟩⟩
  rw [scan_eq_mapM h]
  cases hresults : d.signatureElements.mapM Scan.signature with
  | ok results => exact Or.inl ⟨results, rfl, mapM_eq_ok_iff.1 hresults⟩
  | error e => exact Or.inr ⟨e, rfl, mapM_eq_error_iff.1 hresults⟩

/-- A document in which a signature is signed again by another inside it. -/
def countersigned : Document :=
  let element (uri localName : String) (attributes : List (String × String))
      (children : List Node) : Node :=
    .element ⟨some uri, localName⟩ (attributes.map fun a => ⟨⟨none, a.1⟩, a.2⟩) children
  let counterSignature := element dsigNamespace "Signature" [("Id", "C")]
    [element dsigNamespace "SignedInfo" [] []]
  let properties := element xadesNamespace "QualifyingProperties" [("Target", "#S")]
    [element xadesNamespace "SignedProperties" [] [
        element xadesNamespace "SignedDataObjectProperties" [] [
          element xadesNamespace "DataObjectFormat" [("ObjectReference", "#R")] []]],
      element xadesNamespace "UnsignedProperties" [] [
        element xadesNamespace "UnsignedSignatureProperties" [] [
          element xadesNamespace "CounterSignature" [] [counterSignature]]]]
  ⟨"", [element dsigNamespace "Signature" [("Id", "S")]
    [element dsigNamespace "SignedInfo" [] [element dsigNamespace "Reference" [("Id", "R")] []],
      element dsigNamespace "Object" [] [properties]]]⟩

/-- Both signatures are read, the outer one first, and with both its properties. -/
theorem reads_countersigned :
    countersigned.HasDistinctIdentifiers ∧
      ∃ signatures, ListsInOrder countersigned.SignatureAt signatures ∧
        List.Forall₂ Scan.Reads signatures
          [⟨some "S", true, ⟨["R"], [⟨.dataObjectFormat, .signedDataObject, ["R"]⟩,
              ⟨.counterSignature, .unsignedSignature, []⟩]⟩⟩,
            ⟨some "C", false, ⟨[], []⟩⟩] := by
  have hdistinct : countersigned.HasDistinctIdentifiers :=
    (exists_idMap_iff countersigned).1 ⟨_, rfl⟩
  obtain ⟨⟨signatures, hlists, hscan⟩, hsignature⟩ := scan_reads countersigned hdistinct
  refine ⟨hdistinct, signatures, hlists, ?_⟩
  rcases hscan with ⟨results, hok, hread⟩ | ⟨e, herror, -⟩
  · obtain rfl := Except.ok.inj hok
    exact hread.imp fun s r => (hsignature s).2 r
  · cases herror

end Xml.Document

/-! ### Documents of one signature -/

namespace Xml

/-- An element whose attributes are in no namespace. -/
def Node.plain (namespaceUri localName : String) (attributes : List (String × String))
    (children : List Node) : Node :=
  .element ⟨some namespaceUri, localName⟩ (attributes.map fun a => ⟨⟨none, a.1⟩, a.2⟩) children

/-- Qualifying properties with these signed properties of data objects. -/
def Node.qualifying (properties : List Node) : Node :=
  .plain xadesNamespace ElementName.qualifyingProperties []
    [.plain xadesNamespace ElementName.signedProperties []
      [.plain xadesNamespace PropertyGroup.signedDataObject.containerName [] properties]]

/-- A signature of two references with these signed properties of data objects. -/
def Node.signing (properties : List Node) : Node :=
  .plain dsigNamespace ElementName.signature [("Id", "S")]
    [.plain dsigNamespace ElementName.signedInfo []
        [.plain dsigNamespace ElementName.reference [("Id", "R")] [],
          .plain dsigNamespace ElementName.reference [("Id", "R1")] []],
      .plain dsigNamespace ElementName.object [] [.qualifying properties]]

/-- The document that consists of such a signature. -/
def Document.signing (properties : List Node) : Document := ⟨"", [.signing properties]⟩

end Xml

end AdvancedSignature
