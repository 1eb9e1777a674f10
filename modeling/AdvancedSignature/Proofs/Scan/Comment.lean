import AdvancedSignature.Proofs.Scan.Signature
import AdvancedSignature.Proofs.Xml.Comment

/-!
# Scans of documents without comments

A scan finds elements and attributes, and comments hide neither.  In one place it reads text: a
commitment names a data object by the text of an element.  The text of an element ends where a
comment begins, and so a comment there can make a commitment point at another data object.

* `ScannedSignature.unpointed` forgets which data objects commitments point at.
* `Scan.KeepsPointers` says that a commitment points at the same data objects without comments.
* `Xml.Document.scan_withoutComments`: comments do not change a scan in anything else, and change
  it exactly if some commitment does not keep its pointers.
* `Xml.Document.scan_withoutComments_of_uncommented`: a scan stays where comments are kept out of
  the elements that name the data objects.
-/

namespace AdvancedSignature

open Xml (Node Path ListsInOrder IsFirst Document)
open Xml.Node (ChildAt IsOfElements listsInOrder_children)

/-! ## Commitments without pointers -/

/-- The entry without the names of the data objects that a commitment points at.  How many they are
stays. -/
def LayoutEntry.unpointed (e : LayoutEntry) : LayoutEntry :=
  if e.kind = .commitmentType then { e with targets := e.targets.map fun _ => "" } else e

/-- The signature without the names of the data objects that commitments point at. -/
def ScannedSignature.unpointed (s : ScannedSignature) : ScannedSignature :=
  { s with layout := { s.layout with entries := s.layout.entries.map LayoutEntry.unpointed } }

namespace Scan

variable {container : PropertyGroup} {property : Node}

/-! ## What is found -/

@[simp] theorem isXades_withoutComments (n : Node) : isXades n.withoutComments = isXades n := by
  simp [isXades]

@[simp] theorem isXadesNamed_withoutComments (localName : String) (n : Node) :
    isXadesNamed localName n.withoutComments = isXadesNamed localName n := by
  simp [isXadesNamed]

theorem isOfElements_isXades : IsOfElements isXades :=
  ⟨fun _ => isElement_of_isXades, isXades_withoutComments⟩

theorem isOfElements_isXadesNamed (localName : String) : IsOfElements (isXadesNamed localName) :=
  ⟨fun _ h => isElement_of_isXades (isXadesNamed_iff.1 h).1,
    isXadesNamed_withoutComments localName⟩

theorem xadesChildren_withoutComments (n : Node) (localName : String) :
    xadesChildren n.withoutComments localName =
      (xadesChildren n localName).map Node.withoutComments :=
  (isOfElements_isXadesNamed localName).filter_children n

@[simp] theorem kindOf_withoutComments (property : Node) (container : PropertyGroup) :
    kindOf property.withoutComments container = kindOf property container := by
  simp [kindOf]

@[simp] theorem groupOf?_withoutComments (groups : List PropertyGroup) (container : Node) :
    groupOf? groups container.withoutComments = groupOf? groups container := by
  simp [groupOf?]

@[simp] theorem requiredAttribute_withoutComments (n : Node) (element name : String) :
    requiredAttribute n.withoutComments element name = requiredAttribute n element name := by
  simp [requiredAttribute]

@[simp] theorem checkTarget_withoutComments (qualifying : Node) (id : Option String) :
    checkTarget qualifying.withoutComments id = checkTarget qualifying id := by
  simp [checkTarget]

@[simp] theorem referenceIds_withoutComments (signedInfo : Node) :
    referenceIds signedInfo.withoutComments = referenceIds signedInfo := by
  have hchildren := (Node.isOfElements_isNamed dsigNamespace ElementName.reference).filter_children
    signedInfo
  rw [referenceIds, referenceIds, Node.childrenNamed, Node.childrenNamed, hchildren,
    List.filterMap_map]
  refine List.filterMap_congr fun r _ => ?_
  simp

theorem propertyElements_withoutComments (qualifying : Node) :
    propertyElements qualifying.withoutComments =
      (propertyElements qualifying).map fun x => (x.1, x.2.withoutComments) := by
  have helements := Node.isOfElements_isElement.filter_children
  rw [propertyElements, propertyElements, isOfElements_isXades.filter_children, List.flatMap_map,
    List.map_flatMap]
  refine List.flatMap_congr fun part _ => ?_
  rw [helements, List.flatMap_map, List.map_flatMap]
  refine List.flatMap_congr fun container _ => ?_
  rw [Node.localName_withoutComments, groupOf?_withoutComments, helements]
  cases groupOf? (sectionGroups part.localName) container with
  | none => rfl
  | some group => simp

theorem qualifyingProperties?_withoutComments (s : Node) :
    qualifyingProperties? s.withoutComments =
      (qualifyingProperties? s).map Node.withoutComments := by
  have hobjects := (Node.isOfElements_isNamed dsigNamespace ElementName.object).filter_children s
  have hfind := (isOfElements_isXadesNamed ElementName.qualifyingProperties).find?_children
  rw [qualifyingProperties?, qualifyingProperties?, Node.childrenNamed, Node.childrenNamed,
    hobjects, List.findSome?_map, List.map_findSome?]
  congr 1
  funext object
  exact hfind object

theorem child?_signedInfo_withoutComments (s : Node) :
    s.withoutComments.child? dsigNamespace ElementName.signedInfo =
      (s.child? dsigNamespace ElementName.signedInfo).map Node.withoutComments :=
  (Node.isOfElements_isNamed dsigNamespace ElementName.signedInfo).find?_children s

/-! ## Entries -/

/-- The data object that an element names by its text. -/
def pointeeOf (c : Node) : String := LayoutEntry.pointee (Blank.trim (c.text?.getD ""))

/-- A commitment points at the same data objects when comments are taken out. -/
def KeepsPointers (property : Node) : Prop :=
  IsOfKind .commitmentType property → ¬ IsForAll property →
    ∀ path c, ChildAt (isXadesNamed ElementName.objectReference) property path c →
      pointeeOf c.withoutComments = pointeeOf c

theorem isForAll_withoutComments : IsForAll property.withoutComments ↔ IsForAll property := by
  refine not_iff_not.1 ?_
  rw [IsForAll, ← isEmpty_xadesChildren_iff, IsForAll, ← isEmpty_xadesChildren_iff,
    xadesChildren_withoutComments, List.isEmpty_map]

theorem commitmentEntry_of_single (h : ¬ IsForAll property) :
    commitmentEntry property container = ⟨.commitmentType, container,
      (xadesChildren property ElementName.objectReference).map pointeeOf⟩ := by
  have hpointee (c : Node) : LayoutEntry.pointee (Blank.trim (c.text?.getD "")) = pointeeOf c := rfl
  rw [commitmentEntry_of_not_isForAll h (listsInOrder_commitmentPointers property)]
  simp only [List.map_map, Function.comp_def, hpointee]

theorem commitmentEntry_withoutComments_of_single (h : ¬ IsForAll property) :
    commitmentEntry property.withoutComments container = ⟨.commitmentType, container,
      (xadesChildren property ElementName.objectReference).map fun c =>
        pointeeOf c.withoutComments⟩ := by
  rw [commitmentEntry_of_single fun hall => h (isForAll_withoutComments.1 hall),
    xadesChildren_withoutComments, List.map_map, Function.comp_def]

theorem commitmentEntry_withoutComments_of_isForAll (h : IsForAll property) :
    commitmentEntry property.withoutComments container = commitmentEntry property container := by
  rw [commitmentEntry_of_isForAll h,
    commitmentEntry_of_isForAll (isForAll_withoutComments.2 h)]

theorem isOfKind_of_kindOf (h : kindOf property container = .commitmentType) :
    IsOfKind .commitmentType property := by
  rw [kindOf] at h
  split at h
  · next hxades =>
    cases hname : PropertyKind.ofElementName? property.localName with
    | none => cases container <;> simp [hname, PropertyGroup.otherKind] at h
    | some k =>
      obtain rfl : k = .commitmentType := by simpa [hname] using h
      exact ⟨hxades, (PropertyKind.ofElementName?_eq_some_iff.1 hname).1⟩
  · cases container <;> cases h

/-- Nothing but a commitment is read off text. -/
theorem entry_withoutComments_of_not_commitment (h : ¬ IsOfKind .commitmentType property) :
    entry container property.withoutComments = entry container property := by
  unfold entry
  rw [kindOf_withoutComments, xadesChildren_withoutComments]
  cases hkind : kindOf property container with
  | commitmentType => exact absurd (isOfKind_of_kindOf hkind) h
  | individualDataObjectsTimeStamp => simp [List.foldlM_map]
  | _ => simp

theorem entry_withoutComments_of_commitment (h : IsOfKind .commitmentType property) :
    entry container property.withoutComments =
      .ok (commitmentEntry property.withoutComments container) := by
  refine entry_commitment ⟨?_, ?_⟩
  · rw [isXades_withoutComments, h.1]
  · rw [Node.localName_withoutComments, h.2]

/-- Comments change nothing but what a commitment points at. -/
theorem unpointed_entry_withoutComments (container : PropertyGroup) (property : Node) :
    (entry container property.withoutComments).map LayoutEntry.unpointed =
      (entry container property).map LayoutEntry.unpointed := by
  by_cases hkind : IsOfKind .commitmentType property
  · rw [entry_withoutComments_of_commitment hkind, entry_commitment hkind]
    by_cases hall : IsForAll property
    · rw [commitmentEntry_withoutComments_of_isForAll hall]
    · rw [commitmentEntry_withoutComments_of_single hall, commitmentEntry_of_single hall]
      simp [Except.map, LayoutEntry.unpointed]
  · rw [entry_withoutComments_of_not_commitment hkind]

/-- Comments change nothing exactly if pointers are kept. -/
theorem entry_withoutComments_eq_iff :
    entry container property.withoutComments = entry container property ↔
      KeepsPointers property := by
  by_cases hkind : IsOfKind .commitmentType property
  · rw [entry_withoutComments_of_commitment hkind, entry_commitment hkind, Except.ok.injEq]
    by_cases hall : IsForAll property
    · exact iff_of_true (commitmentEntry_withoutComments_of_isForAll hall)
        fun _ hsingle => absurd hall hsingle
    · rw [commitmentEntry_withoutComments_of_single hall, commitmentEntry_of_single hall]
      simp only [LayoutEntry.mk.injEq, true_and, List.map_inj_left, xadesChildren,
        (listsInOrder_children _ property).mem_iff, KeepsPointers]
      constructor
      · exact fun h _ _ path c hc => h c ⟨path, hc⟩
      · rintro h c ⟨path, hc⟩
        exact h hkind hall path c hc
  · exact iff_of_true (entry_withoutComments_of_not_commitment hkind)
      fun hcommitment => absurd hcommitment hkind

/-! ## Signatures -/

/-- Every commitment of the signature points at the same data objects when comments are taken
out. -/
def KeepsAllPointers (s : Node) : Prop :=
  ∀ path qualifying, IsFirst (QualifyingAt s) path qualifying →
    ∀ place x, PropertyAt qualifying place x → KeepsPointers x.2

theorem QualifyingAt.descend?_eq {s qualifying : Node} {path : Path}
    (h : QualifyingAt s path qualifying) : s.descend? path = some qualifying := by
  obtain ⟨toObject, toQualifying, object, rfl, hobject, hqualifying⟩ := h
  rw [Node.descend?_append hobject.descend?_eq, hqualifying.descend?_eq]

theorem PropertyAt.descend?_eq {qualifying : Node} {path : Path} {x : PropertyGroup × Node}
    (h : PropertyAt qualifying path x) : qualifying.descend? path = some x.2 := by
  obtain ⟨toSection, toContainer, toProperty, part, container, rfl, hpart, hcontainer, hx⟩ := h
  rw [Node.descend?_append hpart.descend?_eq, Node.descend?_append hcontainer.descend?_eq,
    hx.descend?_eq]

/-- Pointers are kept where no element that names a data object has a comment in it. -/
theorem keepsAllPointers_of_uncommented {s : Node}
    (h : ∀ path c, s.descend? path = some c →
      isXadesNamed ElementName.objectReference c = true →
        ∀ x ∈ c.children, x.isComment = false) :
    KeepsAllPointers s := by
  intro path qualifying hqualifying place x hx _ _ rest c hc
  have hbelow : s.descend? (path ++ (place ++ rest)) = some c := by
    rw [Node.descend?_append hqualifying.1.descend?_eq, Node.descend?_append hx.descend?_eq,
      hc.descend?_eq]
  rw [pointeeOf, Node.text?_withoutComments (h _ c hbelow hc.holds), pointeeOf]

theorem keepsAllPointers_of_unqualified {s : Node} (h : qualifyingProperties? s = none) :
    KeepsAllPointers s :=
  fun path qualifying hfirst =>
    absurd hfirst.1 (qualifyingProperties?_eq_none_iff.1 h path qualifying)

theorem keepsAllPointers_iff {s qualifying : Node}
    (h : qualifyingProperties? s = some qualifying) :
    KeepsAllPointers s ↔ ∀ x ∈ propertyElements qualifying, KeepsPointers x.2 := by
  obtain ⟨path, hfirst⟩ := qualifyingProperties?_eq_some_iff.1 h
  simp only [(listsInOrder_propertyElements qualifying).mem_iff]
  constructor
  · rintro hkeeps x ⟨place, hx⟩
    exact hkeeps path qualifying hfirst place x hx
  · intro hkeeps other qualifying' hother place x hx
    rw [(listsInOrder_qualifying s).eq_of_isFirst hother hfirst] at hx
    exact hkeeps x ⟨place, hx⟩

theorem mapM_entry_withoutComments (qualifying : Node) :
    (propertyElements qualifying.withoutComments).mapM (fun x => entry x.1 x.2) =
      (propertyElements qualifying).mapM fun x => entry x.1 x.2.withoutComments := by
  rw [propertyElements_withoutComments, List.mapM_map]
  rfl

/-- Comments change nothing but what the commitments of a signature point at. -/
theorem unpointed_signature_withoutComments (s : Node) :
    (signature s.withoutComments).map ScannedSignature.unpointed =
      (signature s).map ScannedSignature.unpointed := by
  have hentries (qualifying : Node) := map_mapM_congr
    fun x (_ : x ∈ propertyElements qualifying) => unpointed_entry_withoutComments x.1 x.2
  unfold signature
  rw [child?_signedInfo_withoutComments, qualifyingProperties?_withoutComments]
  cases s.child? dsigNamespace ElementName.signedInfo with
  | none => rfl
  | some signedInfo =>
    cases qualifyingProperties? s with
    | none => simp
    | some qualifying =>
      simp only [Option.map_some, referenceIds_withoutComments, checkTarget_withoutComments,
        Node.attribute?_withoutComments, mapM_entry_withoutComments, map_bind]
      refine bind_congr fun references => bind_congr fun _ => ?_
      let result (entries : List LayoutEntry) : ScannedSignature :=
        ⟨s.attribute? AttributeName.id, true, ⟨references, entries⟩⟩
      exact bind_eq_bind_of_map_eq (hentries qualifying) fun entries => .ok (result entries)

/-- A signature that can be read is read as before exactly if pointers are kept. -/
theorem signature_withoutComments_eq_iff {s : Node} {r : ScannedSignature}
    (h : signature s = .ok r) :
    signature s.withoutComments = signature s ↔ KeepsAllPointers s := by
  rw [h]
  cases hinfo : s.child? dsigNamespace ElementName.signedInfo with
  | none => simp [signature, hinfo] at h
  | some signedInfo =>
    have hinfo' := child?_signedInfo_withoutComments s
    rw [hinfo, Option.map_some] at hinfo'
    have hqualifying' := qualifyingProperties?_withoutComments s
    cases hqualifying : qualifyingProperties? s with
    | none =>
      rw [hqualifying, Option.map_none] at hqualifying'
      refine iff_of_true ?_ (keepsAllPointers_of_unqualified hqualifying)
      rw [signature_eq_ok_iff_of_unqualified hinfo' hqualifying', referenceIds_withoutComments,
        Node.attribute?_withoutComments]
      exact (signature_eq_ok_iff_of_unqualified hinfo hqualifying).1 h
    | some qualifying =>
      rw [hqualifying, Option.map_some] at hqualifying'
      obtain ⟨hnodup, hqualifies, entries, hentries, rfl⟩ :=
        (signature_eq_ok_iff_of_qualified hinfo hqualifying).1 h
      simp only [← entry_eq_ok_iff, ← mapM_eq_ok_iff] at hentries
      have hqualifies' : Qualifies qualifying.withoutComments (s.attribute? AttributeName.id) := by
        simpa [Qualifies] using hqualifies
      simp only [signature_eq_ok_iff_of_qualified hinfo' hqualifying', ← entry_eq_ok_iff,
        ← mapM_eq_ok_iff, mapM_entry_withoutComments, referenceIds_withoutComments,
        Node.attribute?_withoutComments, hnodup, hqualifies', true_and, ScannedSignature.mk.injEq,
        PropertyLayout.mk.injEq, exists_eq_right]
      rw [mapM_eq_ok_iff_of_eq_ok hentries, keepsAllPointers_iff hqualifying]
      simp only [entry_withoutComments_eq_iff]

end Scan

/-! ## Documents -/

namespace Xml.Document

theorem scan_withoutComments_eq (d : Document) :
    d.withoutComments.scan =
      d.idMap >>= fun _ => d.signatureElements.mapM fun s => Scan.signature s.withoutComments := by
  have hsignatures : d.withoutComments.signatureElements =
      d.signatureElements.map Node.withoutComments :=
    d.elementsNamed_withoutComments dsigNamespace ElementName.signature
  rw [scan, hsignatures, List.mapM_map]
  exact bind_eq_bind_of_map_eq d.map_value_idMap_withoutComments fun _ =>
    d.signatureElements.mapM fun s => Scan.signature s.withoutComments

/-- **Comments change a scan in nothing but the data objects that commitments point at, and there
exactly if some commitment does not keep its pointers.** -/
theorem scan_withoutComments (d : Document) :
    d.withoutComments.scan.map (List.map ScannedSignature.unpointed) =
        d.scan.map (List.map ScannedSignature.unpointed) ∧
      (d.withoutComments.scan = d.scan ↔ (∃ e, d.scan = .error e) ∨
        ∀ path s, d.SignatureAt path s → Scan.KeepsAllPointers s) := by
  have hunpointed : d.withoutComments.scan.map (List.map ScannedSignature.unpointed) =
      d.scan.map (List.map ScannedSignature.unpointed) := by
    rw [scan_withoutComments_eq, scan, map_bind, map_bind,
      map_mapM_congr fun s _ => Scan.unpointed_signature_withoutComments s]
  refine ⟨hunpointed, ?_⟩
  cases hscan : d.scan with
  | error e =>
    -- what is forgotten of results is no part of an error
    rw [hscan] at hunpointed
    exact iff_of_true (map_eq_error_iff.1 hunpointed) (Or.inl ⟨e, rfl⟩)
  | ok results =>
    obtain ⟨map, hmap, hresults⟩ := bind_eq_ok_iff.1 hscan
    have hread : ∀ s ∈ d.signatureElements, ∃ r, Scan.signature s = .ok r :=
      exists_forall₂_iff.1 ⟨results, mapM_eq_ok_iff.1 hresults⟩
    rw [scan_withoutComments_eq, hmap, ok_bind, mapM_eq_ok_iff_of_eq_ok hresults]
    simp only [d.listsInOrder_signatureElements.mem_iff, reduceCtorEq, exists_false, false_or]
      at hread ⊢
    constructor
    · intro hkept path s hs
      obtain ⟨r, hr⟩ := hread s ⟨path, hs⟩
      exact (Scan.signature_withoutComments_eq_iff hr).1 (hkept s ⟨path, hs⟩)
    · rintro hkeeps s ⟨path, hs⟩
      obtain ⟨r, hr⟩ := hread s ⟨path, hs⟩
      exact (Scan.signature_withoutComments_eq_iff hr).2 (hkeeps path s hs)

/-- A scan stays as it is where no element that names a data object has a comment in it. -/
theorem scan_withoutComments_of_uncommented {d : Document}
    (h : ∀ path c, d.nodeAt? path = some c →
      Scan.isXadesNamed ElementName.objectReference c = true →
        ∀ x ∈ c.children, x.isComment = false) :
    d.withoutComments.scan = d.scan := by
  refine (scan_withoutComments d).2.2 (Or.inr fun path s hs => ?_)
  refine Scan.keepsAllPointers_of_uncommented fun rest c hc => h (path ++ rest) c ?_
  rw [nodeAt?_append hs.1, hc]

/-- A commitment that names one reference before a comment, and another one with what is behind
it. -/
def commentedPointer : List Node :=
  [.plain xadesNamespace "CommitmentTypeIndication" []
    [.plain xadesNamespace "ObjectReference" [] [.text "#R", .comment "", .text "1"]]]

/-- A comment makes the commitment point at another reference, and both signatures are accepted. -/
theorem retargeted_signing_commentedPointer :
    (signing commentedPointer).withoutComments.scan ≠ (signing commentedPointer).scan ∧
      ∃ r r', (signing commentedPointer).scan = .ok [r] ∧
        (signing commentedPointer).withoutComments.scan = .ok [r'] ∧
          r.check = .ok () ∧ r'.check = .ok () ∧
            r.layout.entries = [⟨.commitmentType, .signedDataObject, ["R"]⟩] ∧
              r'.layout.entries = [⟨.commitmentType, .signedDataObject, ["R1"]⟩] := by
  have hscan : (signing commentedPointer).scan = .ok [⟨some "S", true,
      ⟨["R", "R1"], [⟨.commitmentType, .signedDataObject, ["R"]⟩]⟩⟩] := rfl
  have hscan' : (signing commentedPointer).withoutComments.scan = .ok [⟨some "S", true,
      ⟨["R", "R1"], [⟨.commitmentType, .signedDataObject, ["R1"]⟩]⟩⟩] := rfl
  refine ⟨?_, _, _, hscan, hscan', rfl, rfl, rfl, rfl⟩
  rw [hscan, hscan']
  simp

end Xml.Document

end AdvancedSignature
