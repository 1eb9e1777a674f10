import AdvancedSignature.Proofs.Keys
import AdvancedSignature.Proofs.Xml.Order

/-!
# Identifiers

An element carries an identifier under any of three names.  The identifiers of a document can be
told apart when no value stands under two names or in two places, and those are the documents
whose elements can be found by identifier (`exists_idMap_iff`).  The map of the others fails with
the first identifier that repeats one before it (`idMap_eq`).
-/

namespace AdvancedSignature.Xml

namespace Document

/-- The element at the place carries the identifier under the name. -/
def CarriesAt (d : Document) (path : Path) (name value : String) : Prop :=
  ∃ e, d.ElementAt path e ∧ name ∈ AttributeName.identifiers ∧ e.attribute? name = some value

/-- No identifier stands twice, under whatever names. -/
def HasDistinctIdentifiers (d : Document) : Prop :=
  ∀ path other name name' value, d.CarriesAt path name value → d.CarriesAt other name' value →
    path = other ∧ name = name'

/-- The identifiers of an element, without where it stands. -/
def identifierValues (e : Node) : List String := AttributeName.identifiers.filterMap e.attribute?

variable {d : Document}

theorem mem_identifierValues_iff {e : Node} {value : String} :
    value ∈ identifierValues e ↔
      ∃ name ∈ AttributeName.identifiers, e.attribute? name = some value := List.mem_filterMap

theorem map_value_identifiersOf (e : Node) (position : Nat) :
    (identifiersOf e position).map Identified.value = identifierValues e := by
  simp [identifiersOf, identifierValues, List.map_filterMap, Function.comp_def]

theorem map_value_identifiers (d : Document) :
    d.identifiers.map Identified.value = d.elements.flatMap identifierValues := by
  rw [identifiers, List.map_flatMap]
  simp only [map_value_identifiersOf]
  conv_rhs => rw [← List.zipIdx_map_fst 0 d.elements, List.flatMap_map]

theorem nodup_identifierValues_iff {e : Node} :
    (identifierValues e).Nodup ↔
      ∀ name ∈ AttributeName.identifiers, ∀ name' ∈ AttributeName.identifiers,
        ∀ value, e.attribute? name = some value → e.attribute? name' = some value → name = name' :=
  nodup_filterMap_iff (by decide)

theorem nodup_identifiers_iff (d : Document) :
    (d.identifiers.map Identified.value).Nodup ↔ d.HasDistinctIdentifiers := by
  have hdisjoint := d.listsInOrder_elements.pairwise_iff
    (R := fun e f => (identifierValues e).Disjoint (identifierValues f)) fun _ _ =>
      List.disjoint_symm
  rw [map_value_identifiers, List.nodup_flatMap]
  simp only [hdisjoint, d.listsInOrder_elements.mem_iff, nodup_identifierValues_iff]
  constructor
  · rintro ⟨hwithin, hbetween⟩ path other name name' value ⟨e, he, hname, hvalue⟩
      ⟨f, hf, hname', hvalue'⟩
    have hpath : path = other := by
      by_contra hne
      exact hbetween path e other f he hf hne
        (mem_identifierValues_iff.2 ⟨name, hname, hvalue⟩)
        (mem_identifierValues_iff.2 ⟨name', hname', hvalue'⟩)
    subst hpath
    obtain rfl : e = f := Option.some.inj (he.1.symm.trans hf.1)
    exact ⟨rfl, hwithin e ⟨path, he⟩ name hname name' hname' value hvalue hvalue'⟩
  · intro h
    refine ⟨fun e ⟨path, he⟩ name hname name' hname' value hvalue hvalue' => ?_,
      fun path e other f he hf hne value hvalue hvalue' => hne ?_⟩
    · exact (h path path name name' value ⟨e, he, hname, hvalue⟩ ⟨e, he, hname', hvalue'⟩).2
    · obtain ⟨name, hname, hvalue⟩ := mem_identifierValues_iff.1 hvalue
      obtain ⟨name', hname', hvalue'⟩ := mem_identifierValues_iff.1 hvalue'
      exact (h path other name name' value ⟨e, he, hname, hvalue⟩ ⟨f, hf, hname', hvalue'⟩).1

/-- What is wrong with an identifier that another before it has. -/
def duplicateFault (i : Identified) : Error := .xmlParse (.duplicateId i.value)

theorem insertIdentifier_eq (map : List Identified) (i : Identified) :
    insertIdentifier map i =
      okUnless (repeatFault? Identified.value duplicateFault map i) (map ++ [i]) := by
  have hmem : (map.any fun other => other.value == i.value) = true ↔
      i.value ∈ map.map Identified.value := by
    simp only [List.any_eq_true, beq_iff_eq, List.mem_map]
  by_cases h : i.value ∈ map.map Identified.value
  · rw [insertIdentifier, if_pos (hmem.2 h), repeatFault?, if_pos h, okUnless_some, duplicateFault]
  · rw [insertIdentifier, if_neg (mt hmem.1 h), repeatFault?, if_neg h, okUnless_none]

/-- The identifiers are the map, unless one of them repeats another. -/
theorem idMap_eq (d : Document) :
    d.idMap = okUnless (firstFault? (repeatFault? Identified.value duplicateFault) []
      d.identifiers) d.identifiers :=
  foldlM_eq_okUnless insertIdentifier_eq

theorem idMap_eq_ok_iff {map : List Identified} :
    d.idMap = .ok map ↔ map = d.identifiers ∧ (d.identifiers.map Identified.value).Nodup :=
  foldlM_eq_ok_iff_nodup insertIdentifier_eq

/-- **The elements of a document can be found by identifier when no identifier stands twice.** -/
theorem exists_idMap_iff (d : Document) :
    (∃ map, d.idMap = .ok map) ↔ d.HasDistinctIdentifiers := by
  simp only [idMap_eq_ok_iff, exists_eq_left, nodup_identifiers_iff]

/-- A document with an identifier that stands twice counts as malformed. -/
theorem xmlParse_of_idMap {e : Error} (h : d.idMap = .error e) : ∃ fault, e = .xmlParse fault := by
  rw [idMap_eq, okUnless_eq_error_iff, firstFault?_eq_some_iff] at h
  obtain ⟨_, i, _, -, -, h⟩ := h
  obtain ⟨-, rfl⟩ := repeatFault?_eq_some_iff.1 h
  exact ⟨_, rfl⟩

end Document

end AdvancedSignature.Xml
