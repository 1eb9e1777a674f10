import AdvancedSignature.Declaration.SignedDataObjects
import AdvancedSignature.Proofs.Declaration.Description

/-!
# Collections of data objects

A collection keeps its reference identifiers distinct, and what it holds for all data objects is
for all data objects (`SignedDataObjects.IsConsistent`).  Adding a data object and declaring a
property for all are refused, or append at the end.
-/

namespace AdvancedSignature

namespace SignedDataObjects

/-- The collection holds the property for all its data objects. -/
def HoldsForAll (c : SignedDataObjects) (p : DataObjectProperty) : Prop :=
  p ∈ c.forAllSigned.entries ∨ p ∈ c.forAllUnsigned.entries

/-- The reference identifiers are distinct, and the bags for all data objects are in order and
hold properties for all data objects, each in the one to which it belongs. -/
structure IsConsistent (c : SignedDataObjects) : Prop where
  referenceIds : c.referenceIds.Nodup
  forAll : DataObjectProperty.IsSplit c.forAllSigned c.forAllUnsigned
  multiplicity_eq_all : ∀ p, c.HoldsForAll p → p.multiplicity = .all

theorem isConsistent_empty : IsConsistent {} where
  referenceIds := List.nodup_nil
  forAll := DataObjectProperty.isSplit_empty
  multiplicity_eq_all := by simp [HoldsForAll]

/-- A data object is added at the end, unless its reference identifier is there. -/
theorem add_eq (c : SignedDataObjects) (d : DataObjectDescription) :
    c.add d =
      if d.referenceId ∈ c.referenceIds then .error (.duplicateDataObject d.referenceId)
      else .ok { c with objects := c.objects ++ [d] } := by
  have hmem : (c.byReferenceId? d.referenceId).isSome ↔ d.referenceId ∈ c.referenceIds := by
    simp [byReferenceId?, referenceIds]
  simp only [add, hmem]

theorem IsConsistent.add {c : SignedDataObjects} (hc : c.IsConsistent) {d : DataObjectDescription}
    (hd : d.referenceId ∉ c.referenceIds) :
    IsConsistent { c with objects := c.objects ++ [d] } :=
  { hc with
    referenceIds := by
      simp only [SignedDataObjects.referenceIds, List.map_append, List.map_singleton]
      exact hc.referenceIds.append (List.nodup_singleton _) (by simpa using hd) }

/-- The bag for all data objects to which a property belongs. -/
def bagFor (c : SignedDataObjects) (p : DataObjectProperty) : Bag DataObjectProperty :=
  if p.kind = .otherUnsignedDataObject then c.forAllUnsigned else c.forAllSigned

/-- The collection with a property at the end of the bag to which it belongs. -/
def withProperty (c : SignedDataObjects) (p : DataObjectProperty) : SignedDataObjects :=
  if p.kind = .otherUnsignedDataObject then { c with forAllUnsigned := c.forAllUnsigned.append p }
  else { c with forAllSigned := c.forAllSigned.append p }

theorem forAllSigned_withProperty (c : SignedDataObjects) (p : DataObjectProperty) :
    (c.withProperty p).forAllSigned =
      if p.kind = .otherUnsignedDataObject then c.forAllSigned else c.forAllSigned.append p := by
  unfold withProperty
  split_ifs <;> rfl

theorem forAllUnsigned_withProperty (c : SignedDataObjects) (p : DataObjectProperty) :
    (c.withProperty p).forAllUnsigned =
      if p.kind = .otherUnsignedDataObject then c.forAllUnsigned.append p
      else c.forAllUnsigned := by
  unfold withProperty
  split_ifs <;> rfl

@[simp] theorem objects_withProperty (c : SignedDataObjects) (p : DataObjectProperty) :
    (c.withProperty p).objects = c.objects := by
  unfold withProperty
  split_ifs <;> rfl

theorem holdsForAll_withProperty {c : SignedDataObjects} {p q : DataObjectProperty} :
    (c.withProperty p).HoldsForAll q ↔ c.HoldsForAll q ∨ q = p := by
  unfold withProperty HoldsForAll
  split_ifs
  · simp only [Bag.mem_append, or_assoc]
  · simp only [Bag.mem_append, or_right_comm]

theorem IsConsistent.bagFor {c : SignedDataObjects} (hc : c.IsConsistent)
    (p : DataObjectProperty) : (c.bagFor p).IsDisciplined := by
  unfold SignedDataObjects.bagFor
  split_ifs
  · exact hc.forAll.unsigned
  · exact hc.forAll.signed

/-- A declaration for all data objects is refused, unless the property is for all and the bag to
which it belongs takes it. -/
theorem IsConsistent.declareForAll_cases {c : SignedDataObjects} (hc : c.IsConsistent)
    (p : DataObjectProperty) :
    (¬ (p.multiplicity = .all ∧ (c.bagFor p).Admits p) ∧
      ∃ e : Error, e.IsRefusal ∧ c.declareForAll p = .error e) ∨
    ((p.multiplicity = .all ∧ (c.bagFor p).Admits p) ∧
      c.declareForAll p = .ok (c.withProperty p)) := by
  by_cases hall : p.multiplicity = .all
  · have hbag := (hc.bagFor p).toIsConsistent
    have heq : c.declareForAll p = ((c.bagFor p).putOrAdd p).map fun _ => c.withProperty p := by
      unfold declareForAll SignedDataObjects.bagFor withProperty
      simp only [hall, ne_eq, not_true_eq_false, if_false]
      split_ifs
      · rcases hc.forAll.unsigned.toIsConsistent.putOrAdd_cases p with ⟨-, e, hput⟩ | ⟨-, hput⟩ <;>
          rw [hput] <;> rfl
      · rcases hc.forAll.signed.toIsConsistent.putOrAdd_cases p with ⟨-, e, hput⟩ | ⟨-, hput⟩ <;>
          rw [hput] <;> rfl
    rw [heq]
    rcases hbag.putOrAdd_cases p with ⟨hnot, e, hput⟩ | ⟨hadmits, hput⟩
    · exact Or.inl ⟨fun h => hnot h.2, e, hbag.isRefusal_of_putOrAdd hput, by rw [hput]; rfl⟩
    · exact Or.inr ⟨⟨hall, hadmits⟩, by rw [hput]; rfl⟩
  · exact Or.inl ⟨fun h => hall h.1, .misplacedProperty p.kind .allDataObjects, ⟨rfl, by simp⟩,
      by simp [declareForAll, hall]⟩

theorem IsConsistent.withProperty {c : SignedDataObjects} (hc : c.IsConsistent)
    {p : DataObjectProperty} (hall : p.multiplicity = .all) (hadmits : (c.bagFor p).Admits p) :
    (c.withProperty p).IsConsistent where
  referenceIds := by
    unfold SignedDataObjects.referenceIds
    rw [objects_withProperty]
    exact hc.referenceIds
  forAll := by
    rw [forAllSigned_withProperty, forAllUnsigned_withProperty]
    exact hc.forAll.append hadmits
  multiplicity_eq_all q hq := by
    rcases holdsForAll_withProperty.1 hq with hq | rfl
    · exact hc.multiplicity_eq_all q hq
    · exact hall

end SignedDataObjects

end AdvancedSignature
