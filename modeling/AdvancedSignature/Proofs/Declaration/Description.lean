import AdvancedSignature.Declaration.Description
import AdvancedSignature.Proofs.Outcome
import AdvancedSignature.Proofs.Property.Bag
import AdvancedSignature.Proofs.Property.TargetSet

/-!
# Declaring a property on a data object

A property is taken into a bag first and taken out again when its target is refused.  On a
consistent bag nothing of the attempt remains: `insertAndAttach_eq` has no removal in it any more,
and neither has `DataObjectDescription.declare_eq`.

* `DataObjectDescription.IsConsistent`: what holds of a description and the targets of its
  properties.
* `DataObjectDescription.IsConsistent.declare_cases`: a declaration is refused and changes
  nothing, or it appends the property to one bag and the data object to the targets.
-/

namespace AdvancedSignature

/-! ## Refusals -/

theorem Bag.IsConsistent.isRefusal_of_putOrAdd {α : Type} [HasKind α] [DecidableEq α] {b : Bag α}
    (hb : b.IsConsistent) {p : α} {e : Error} (h : b.putOrAdd p = .error e) : e.IsRefusal := by
  rcases hb.error_of_putOrAdd h with rfl | rfl <;> exact ⟨rfl, by simp⟩

theorem TargetSet.isRefusal_of_attach {s : TargetSet} {target : DataObjectId} {e : Error}
    (h : s.attach target = .error e) : e.IsRefusal := by
  rcases TargetSet.error_of_attach h with rfl | rfl | rfl <;> exact ⟨rfl, by simp⟩

/-! ## Targets -/

namespace TargetTable

/-- The table with one more target of a property. -/
def push (t : TargetTable) (p : DataObjectProperty) (target : DataObjectId) : TargetTable :=
  t.set p (t.ofProperty p ++ [target])

theorem ofProperty_push (t : TargetTable) (p q : DataObjectProperty) (target : DataObjectId) :
    (t.push p target).ofProperty q =
      if q = p then t.ofProperty p ++ [target] else t.ofProperty q := rfl

/-- Targets are never lost. -/
theorem mem_ofProperty_push {t : TargetTable} {q : DataObjectProperty} {id : DataObjectId}
    (h : id ∈ t.ofProperty q) (p : DataObjectProperty) (target : DataObjectId) :
    id ∈ (t.push p target).ofProperty q := by
  rw [ofProperty_push]
  split_ifs with hq
  · exact List.mem_append_left _ (hq ▸ h)
  · exact h

theorem attach_eq_ok_iff {t t' : TargetTable} {p : DataObjectProperty} {target : DataObjectId} :
    t.attach p target = .ok t' ↔ (t.targetSet p).Accepts target ∧ t' = t.push p target := by
  rw [attach, map_eq_ok_iff]
  constructor
  · rintro ⟨s, hs, rfl⟩
    obtain ⟨haccepts, rfl⟩ := TargetSet.attach_eq_ok_iff.1 hs
    exact ⟨haccepts, rfl⟩
  · rintro ⟨haccepts, rfl⟩
    exact ⟨_, TargetSet.attach_eq_ok_iff.2 ⟨haccepts, rfl⟩, rfl⟩

theorem isRefusal_of_attach {t : TargetTable} {p : DataObjectProperty} {target : DataObjectId}
    {e : Error} (h : t.attach p target = .error e) : e.IsRefusal := by
  unfold attach at h
  cases hs : (t.targetSet p).attach target with
  | ok s =>
    rw [hs] at h
    cases h
  | error e' =>
    rw [hs] at h
    cases h
    exact TargetSet.isRefusal_of_attach hs

/-- A target is refused or recorded. -/
theorem attach_cases (t : TargetTable) (p : DataObjectProperty) (target : DataObjectId) :
    (¬ (t.targetSet p).Accepts target ∧ ∃ e : Error, e.IsRefusal ∧ t.attach p target = .error e) ∨
      ((t.targetSet p).Accepts target ∧ t.attach p target = .ok (t.push p target)) := by
  cases hattach : t.attach p target with
  | error e =>
    refine Or.inl ⟨fun haccepts => ?_, e, isRefusal_of_attach hattach, rfl⟩
    rw [attach_eq_ok_iff.2 ⟨haccepts, rfl⟩] at hattach
    cases hattach
  | ok t' =>
    obtain ⟨haccepts, rfl⟩ := attach_eq_ok_iff.1 hattach
    exact Or.inr ⟨haccepts, rfl⟩

/-- The target sets stay within the multiplicities. -/
def IsConsistent (t : TargetTable) : Prop := ∀ p, (t.targetSet p).IsConsistent

theorem isConsistent_empty : IsConsistent {} := fun _ => TargetSet.isConsistent_nil _ _

theorem IsConsistent.push {t : TargetTable} (ht : t.IsConsistent) {p : DataObjectProperty}
    {target : DataObjectId} (h : (t.targetSet p).Accepts target) :
    (t.push p target).IsConsistent := by
  intro q
  by_cases hq : q = p
  · subst hq
    have hpush := (ht q).push h
    simpa [targetSet, DataObjectProperty.targetSet, ofProperty_push] using hpush
  · simpa [targetSet, DataObjectProperty.targetSet, ofProperty_push, hq] using ht q

/-- A property for all data objects has no target of its own. -/
theorem IsConsistent.eq_nil {t : TargetTable} (ht : t.IsConsistent) {p : DataObjectProperty}
    (h : p.multiplicity = .all) : t.ofProperty p = [] := (ht p).eq_nil h

end TargetTable

/-! ## One bag and the targets -/

/-- **What is refused is undone**: the bag is as it was before, and so are the targets. -/
theorem insertAndAttach_eq {b : Bag DataObjectProperty} (hb : b.IsConsistent) (t : TargetTable)
    (p : DataObjectProperty) (target : DataObjectId) :
    insertAndAttach b t p target =
      match b.putOrAdd p, t.attach p target with
      | .error e, _ => (.error e, b, t)
      | .ok _, .error e => (.error e, b, t)
      | .ok inserted, .ok attached => (.ok (), inserted, attached) := by
  unfold insertAndAttach
  cases hput : b.putOrAdd p with
  | error e => rfl
  | ok inserted =>
    obtain ⟨hadmits, rfl⟩ := (hb.putOrAdd_eq_ok_iff p).1 hput
    cases t.attach p target with
    | ok attached => rfl
    | error e =>
      -- the property is taken out again where it was just put in
      simp only [hb.remove_append hadmits.1]

/-! ## Signed and unsigned properties -/

namespace DataObjectProperty

/-- Two bags of data-object properties are in order, and every property is in the one to which it
belongs. -/
structure IsSplit (s u : Bag DataObjectProperty) : Prop where
  signed : s.IsDisciplined
  unsigned : u.IsDisciplined
  kind_signed : ∀ p ∈ s.entries, p.kind ≠ .otherUnsignedDataObject
  kind_unsigned : ∀ p ∈ u.entries, p.kind = .otherUnsignedDataObject

theorem isSplit_empty : IsSplit {} {} :=
  ⟨Bag.isDisciplined_empty, Bag.isDisciplined_empty, by simp, by simp⟩

/-- Appending a property to the bag to which it belongs. -/
theorem IsSplit.append {s u : Bag DataObjectProperty} (h : IsSplit s u) {p : DataObjectProperty}
    (hadmits : (if p.kind = .otherUnsignedDataObject then u else s).Admits p) :
    IsSplit (if p.kind = .otherUnsignedDataObject then s else s.append p)
      (if p.kind = .otherUnsignedDataObject then u.append p else u) := by
  by_cases hkind : p.kind = .otherUnsignedDataObject
  · simp only [hkind, if_true] at hadmits ⊢
    refine ⟨h.signed, h.unsigned.append hadmits, h.kind_signed, fun q hq => ?_⟩
    rcases Bag.mem_append.1 hq with hq | rfl
    · exact h.kind_unsigned q hq
    · exact hkind
  · simp only [hkind, if_false] at hadmits ⊢
    refine ⟨h.signed.append hadmits, h.unsigned, fun q hq => ?_, h.kind_unsigned⟩
    rcases Bag.mem_append.1 hq with hq | rfl
    · exact h.kind_signed q hq
    · exact hkind

end DataObjectProperty

namespace DataObjectDescription

/-- The bag of the description to which a property belongs. -/
def bagFor (d : DataObjectDescription) (p : DataObjectProperty) : Bag DataObjectProperty :=
  if p.kind = .otherUnsignedDataObject then d.unsigned else d.signed

/-- The description with a property at the end of the bag to which it belongs. -/
def withProperty (d : DataObjectDescription) (p : DataObjectProperty) : DataObjectDescription :=
  if p.kind = .otherUnsignedDataObject then { d with unsigned := d.unsigned.append p }
  else { d with signed := d.signed.append p }

theorem signed_withProperty (d : DataObjectDescription) (p : DataObjectProperty) :
    (d.withProperty p).signed =
      if p.kind = .otherUnsignedDataObject then d.signed else d.signed.append p := by
  unfold withProperty
  split_ifs <;> rfl

theorem unsigned_withProperty (d : DataObjectDescription) (p : DataObjectProperty) :
    (d.withProperty p).unsigned =
      if p.kind = .otherUnsignedDataObject then d.unsigned.append p else d.unsigned := by
  unfold withProperty
  split_ifs <;> rfl

@[simp] theorem id_withProperty (d : DataObjectDescription) (p : DataObjectProperty) :
    (d.withProperty p).id = d.id := by
  unfold withProperty
  split_ifs <;> rfl

@[simp] theorem referenceId_withProperty (d : DataObjectDescription) (p : DataObjectProperty) :
    (d.withProperty p).referenceId = d.referenceId := by
  unfold withProperty
  split_ifs <;> rfl

/-- Declaring a property fails as taking it into its bag does, or else as recording its target. -/
theorem declare_eq {d : DataObjectDescription} (hsigned : d.signed.IsConsistent)
    (hunsigned : d.unsigned.IsConsistent) (t : TargetTable) (p : DataObjectProperty) :
    d.declare t p =
      match (d.bagFor p).putOrAdd p, t.attach p d.id with
      | .error e, _ => (.error e, d, t)
      | .ok _, .error e => (.error e, d, t)
      | .ok _, .ok attached => (.ok (), d.withProperty p, attached) := by
  unfold declare bagFor withProperty
  by_cases hkind : p.kind = .otherUnsignedDataObject
  · simp only [hkind, if_true, insertAndAttach_eq hunsigned]
    rcases hunsigned.putOrAdd_cases p with ⟨-, e, hput⟩ | ⟨-, hput⟩
    · rw [hput]
    · rw [hput]
      cases t.attach p d.id <;> rfl
  · simp only [hkind, if_false, insertAndAttach_eq hsigned]
    rcases hsigned.putOrAdd_cases p with ⟨-, e, hput⟩ | ⟨-, hput⟩
    · rw [hput]
    · rw [hput]
      cases t.attach p d.id <;> rfl

/-- The description holds the property, among the signed or among the unsigned ones. -/
def Holds (d : DataObjectDescription) (p : DataObjectProperty) : Prop :=
  p ∈ d.signed.entries ∨ p ∈ d.unsigned.entries

/-- The bags are in order, every property is in the one to which it belongs, and it targets the
data object. -/
structure IsConsistent (t : TargetTable) (d : DataObjectDescription) : Prop
    extends DataObjectProperty.IsSplit d.signed d.unsigned where
  target : ∀ p, d.Holds p → d.id ∈ t.ofProperty p

theorem IsConsistent.bagFor {t : TargetTable} {d : DataObjectDescription} (hd : d.IsConsistent t)
    (p : DataObjectProperty) : (d.bagFor p).IsDisciplined := by
  unfold DataObjectDescription.bagFor
  split_ifs
  · exact hd.unsigned
  · exact hd.signed

/-- A property is held in the bag to which it belongs. -/
theorem IsConsistent.mem_bagFor_iff {t : TargetTable} {d : DataObjectDescription}
    (hd : d.IsConsistent t) {p : DataObjectProperty} :
    p ∈ (d.bagFor p).entries ↔ d.Holds p := by
  unfold DataObjectDescription.bagFor Holds
  split_ifs with hkind
  · exact (or_iff_right fun hp => hd.kind_signed p hp hkind).symm
  · exact (or_iff_left fun hp => hkind (hd.kind_unsigned p hp)).symm

/-- A declaration that the bag or the targets do not take is refused and changes nothing; else it
appends the property to the bag to which it belongs and the data object to its targets. -/
theorem IsConsistent.declare_cases {t : TargetTable} {d : DataObjectDescription}
    (hd : d.IsConsistent t) (p : DataObjectProperty) :
    (¬ ((d.bagFor p).Admits p ∧ (t.targetSet p).Accepts d.id) ∧
      ∃ e : Error, e.IsRefusal ∧ d.declare t p = (.error e, d, t)) ∨
    (((d.bagFor p).Admits p ∧ (t.targetSet p).Accepts d.id) ∧
      d.declare t p = (.ok (), d.withProperty p, t.push p d.id)) := by
  have hbag := (hd.bagFor p).toIsConsistent
  rw [declare_eq hd.signed.toIsConsistent hd.unsigned.toIsConsistent]
  rcases hbag.putOrAdd_cases p with ⟨hnot, e, hput⟩ | ⟨hadmits, hput⟩
  · refine Or.inl ⟨fun h => hnot h.1, e, hbag.isRefusal_of_putOrAdd hput, ?_⟩
    rw [hput]
  · rw [hput]
    rcases t.attach_cases p d.id with ⟨hnot, e, he, hattach⟩ | ⟨haccepts, hattach⟩
    · exact Or.inl ⟨fun h => hnot h.2, e, he, by rw [hattach]⟩
    · exact Or.inr ⟨⟨hadmits, haccepts⟩, by rw [hattach]⟩

/-- More targets do no harm. -/
theorem IsConsistent.push {t : TargetTable} {d : DataObjectDescription} (hd : d.IsConsistent t)
    (p : DataObjectProperty) (target : DataObjectId) : d.IsConsistent (t.push p target) :=
  { hd with
    target := fun q hq => TargetTable.mem_ofProperty_push (hd.target q hq) p target }

theorem holds_withProperty {d : DataObjectDescription} {p q : DataObjectProperty} :
    (d.withProperty p).Holds q ↔ d.Holds q ∨ q = p := by
  unfold withProperty Holds
  split_ifs
  · simp only [Bag.mem_append, or_assoc]
  · simp only [Bag.mem_append, or_right_comm]

/-- A format is a signed property. -/
theorem format_mem_kinds_withProperty {d : DataObjectDescription} {p : DataObjectProperty} :
    PropertyKind.dataObjectFormat ∈ (d.withProperty p).signed.entries.map HasKind.kind ↔
      PropertyKind.dataObjectFormat ∈ d.signed.entries.map HasKind.kind ∨
        p.kind = .dataObjectFormat := by
  unfold withProperty
  split_ifs with hkind
  · simp [hkind]
  · rw [Bag.entries_append, List.map_append, List.mem_append, List.map_singleton,
      List.mem_singleton, eq_comm (a := PropertyKind.dataObjectFormat)]
    rfl

theorem IsConsistent.withProperty {t : TargetTable} {d : DataObjectDescription}
    (hd : d.IsConsistent t) {p : DataObjectProperty} (hadmits : (d.bagFor p).Admits p) :
    (d.withProperty p).IsConsistent (t.push p d.id) where
  toIsSplit := by
    rw [signed_withProperty, unsigned_withProperty]
    exact hd.toIsSplit.append hadmits
  target q hq := by
    rw [id_withProperty]
    rcases holds_withProperty.1 hq with hq | rfl
    · exact TargetTable.mem_ofProperty_push (hd.target q hq) p d.id
    · simp [TargetTable.ofProperty_push]

/-- A property for all data objects is not held by one of them. -/
theorem IsConsistent.multiplicity_ne_all {t : TargetTable} {d : DataObjectDescription}
    (hd : d.IsConsistent t) (ht : t.IsConsistent) {p : DataObjectProperty} (hp : d.Holds p) :
    p.multiplicity ≠ .all := by
  intro hall
  have hmem := hd.target p hp
  rw [ht.eq_nil hall] at hmem
  simp at hmem

end DataObjectDescription

end AdvancedSignature
