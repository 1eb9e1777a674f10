import AdvancedSignature.Proofs.Declaration.Change
import AdvancedSignature.Proofs.Layout.Fault
import AdvancedSignature.Proofs.Property.Qualifying

/-!
# Settled collections

What holds of a collection and the targets of its properties once the targets have been checked
(`SignedDataObjects.IsSettled`): every property targets data objects of the collection, as many as
its kind allows, and a format targets the data object that holds it.
-/

namespace AdvancedSignature

namespace SignedDataObjects

/-- The data objects of the collection that a property targets. -/
def targetsOf (c : SignedDataObjects) (t : TargetTable) (p : DataObjectProperty) :
    List DataObjectDescription :=
  (t.ofProperty p).filterMap c.get?

/-- The property is held by a data object or for all of them. -/
def Holds (c : SignedDataObjects) (p : DataObjectProperty) : Prop :=
  (∃ o ∈ c.objects, o.Holds p) ∨ c.HoldsForAll p

/-- Everything is in order with the data objects and the properties that they hold, and every
property targets data objects of the collection only. -/
structure IsSettled (t : TargetTable) (c : SignedDataObjects) : Prop where
  collection : c.IsConsistent
  ids : (c.objects.map DataObjectDescription.id).Nodup
  objects : ∀ o ∈ c.objects, o.IsConsistent t
  table : t.IsConsistent
  wellMade : ∀ p, c.Holds p → p.IsWellMade
  resolved : c.checkTargets t = .ok ()

variable {c : SignedDataObjects} {t : TargetTable} {p : DataObjectProperty}

theorem mem_signedProperties :
    p ∈ c.signedProperties.entries ↔
      (∃ o ∈ c.objects, p ∈ o.signed.entries) ∨ p ∈ c.forAllSigned.entries := by
  simp only [signedProperties, InstanceList.mem_ofList, List.mem_append, List.mem_flatMap]

theorem mem_unsignedProperties :
    p ∈ c.unsignedProperties.entries ↔
      (∃ o ∈ c.objects, p ∈ o.unsigned.entries) ∨ p ∈ c.forAllUnsigned.entries := by
  simp only [unsignedProperties, InstanceList.mem_ofList, List.mem_append, List.mem_flatMap]

/-- What is held is what is listed, among the signed or among the unsigned properties. -/
theorem holds_iff_mem :
    c.Holds p ↔ p ∈ c.signedProperties.entries ∨ p ∈ c.unsignedProperties.entries := by
  rw [mem_signedProperties, mem_unsignedProperties]
  constructor
  · rintro (⟨o, ho, hp | hp⟩ | hp | hp)
    · exact Or.inl (Or.inl ⟨o, ho, hp⟩)
    · exact Or.inr (Or.inl ⟨o, ho, hp⟩)
    · exact Or.inl (Or.inr hp)
    · exact Or.inr (Or.inr hp)
  · rintro ((⟨o, ho, hp⟩ | hp) | ⟨o, ho, hp⟩ | hp)
    · exact Or.inl ⟨o, ho, Or.inl hp⟩
    · exact Or.inr (Or.inl hp)
    · exact Or.inl ⟨o, ho, Or.inr hp⟩
    · exact Or.inr (Or.inr hp)

/-- Resolved targets are found in the collection, each under its identity. -/
theorem of_resolveTargets {s : TargetSet} {os : List DataObjectDescription}
    (h : c.resolveTargets s = .ok os) :
    s.targets.filterMap c.get? = os ∧ os.map DataObjectDescription.id = s.targets := by
  obtain ⟨kind, multiplicity, ids⟩ := s
  unfold resolveTargets at h
  induction ids generalizing os with
  | nil =>
    cases h
    exact ⟨rfl, rfl⟩
  | cons id rest ih =>
    rw [List.mapM_cons] at h
    obtain ⟨o, ho, h⟩ := bind_eq_ok_iff.1 h
    obtain ⟨os', hrest, h⟩ := bind_eq_ok_iff.1 h
    cases h
    cases hget : c.get? id with
    | none =>
      rw [hget] at ho
      cases ho
    | some found =>
      rw [hget] at ho
      cases ho
      have hid : o.id = id := by simpa using List.find?_some hget
      obtain ⟨hfound, hids⟩ := ih hrest
      refine ⟨?_, ?_⟩
      · rw [List.filterMap_cons_some hget, hfound]
      · rw [List.map_cons, hid, hids]

namespace IsSettled

theorem kind_of_mem_signed (hc : c.IsSettled t) (hp : p ∈ c.signedProperties.entries) :
    c.Holds p ∧ p.kind ≠ .otherUnsignedDataObject := by
  rcases mem_signedProperties.1 hp with ⟨o, ho, hp⟩ | hp
  · exact ⟨Or.inl ⟨o, ho, Or.inl hp⟩, (hc.objects o ho).kind_signed p hp⟩
  · exact ⟨Or.inr (Or.inl hp), hc.collection.forAll.kind_signed p hp⟩

theorem kind_of_mem_unsigned (hc : c.IsSettled t) (hp : p ∈ c.unsignedProperties.entries) :
    c.Holds p ∧ p.kind = .otherUnsignedDataObject := by
  rcases mem_unsignedProperties.1 hp with ⟨o, ho, hp⟩ | hp
  · exact ⟨Or.inl ⟨o, ho, Or.inr hp⟩, (hc.objects o ho).kind_unsigned p hp⟩
  · exact ⟨Or.inr (Or.inr hp), hc.collection.forAll.kind_unsigned p hp⟩

theorem resolveTargets_eq (hc : c.IsSettled t) (hp : c.Holds p) :
    c.resolveTargets (t.targetSet p) = .ok (c.targetsOf t p) := by
  obtain ⟨_, hsigned, hunsigned⟩ := bind_eq_ok_iff.1 hc.resolved
  have hok : ∃ os, c.resolveTargets (t.targetSet p) = .ok os := by
    rcases holds_iff_mem.1 hp with hp | hp
    · obtain ⟨os, hos, -⟩ := bind_eq_ok_iff.1 (forM_eq_ok_iff.1 hsigned p hp)
      exact ⟨os, hos⟩
    · obtain ⟨os, hos, -⟩ := bind_eq_ok_iff.1 (forM_eq_ok_iff.1 hunsigned p hp)
      exact ⟨os, hos⟩
  obtain ⟨os, hos⟩ := hok
  obtain rfl : c.targetsOf t p = os := (of_resolveTargets hos).1
  exact hos

theorem ids_targetsOf (hc : c.IsSettled t) (hp : c.Holds p) :
    (c.targetsOf t p).map DataObjectDescription.id = t.ofProperty p :=
  (of_resolveTargets (hc.resolveTargets_eq hp)).2

theorem mem_objects {o : DataObjectDescription} (ho : o ∈ c.targetsOf t p) : o ∈ c.objects := by
  obtain ⟨id, -, hget⟩ := List.mem_filterMap.1 ho
  exact List.mem_of_find?_eq_some hget

/-- A data object that is targeted by name is so by a property that is not for all. -/
theorem multiplicity_of_holds (hc : c.IsSettled t) {o : DataObjectDescription}
    (ho : o ∈ c.objects) (hp : o.Holds p) : p.multiplicity ≠ .all ∧ o.id ∈ t.ofProperty p :=
  ⟨(hc.objects o ho).multiplicity_ne_all hc.table hp, (hc.objects o ho).target p hp⟩

/-- A format targets one data object, and that one holds it. -/
theorem mem_signed_of_format (hc : c.IsSettled t) (hp : c.Holds p)
    (hkind : p.kind = .dataObjectFormat) {o : DataObjectDescription}
    (ho : o ∈ c.targetsOf t p) : p ∈ o.signed.entries := by
  have hone : p.multiplicity = .one := by
    rw [DataObjectProperty.multiplicity_eq (by rw [hkind]; rfl), hkind]
    rfl
  rcases hp with ⟨o', ho', hheld⟩ | hall
  · have hid' := (hc.multiplicity_of_holds ho' hheld).2
    have hid : o.id ∈ t.ofProperty p :=
      hc.ids_targetsOf (Or.inl ⟨o', ho', hheld⟩) ▸ List.mem_map_of_mem ho
    have heq : o.id = o'.id := (hc.table p).eq_of_mem hone hid hid'
    obtain rfl : o = o' := List.inj_on_of_nodup_map hc.ids (mem_objects ho) ho' heq
    -- a format is not an unsigned property
    refine hheld.resolve_right fun hp => ?_
    have hother := (hc.objects o ho').kind_unsigned p hp
    rw [hkind] at hother
    cases hother
  · have hall := hc.collection.multiplicity_eq_all p hall
    rw [hone] at hall
    cases hall

/-- Every property targets as many data objects as its kind allows. -/
theorem allowsTargets (hc : c.IsSettled t) (hp : c.Holds p) :
    p.kind.AllowsTargets (c.targetsOf t p).length := by
  have hlevel := (hc.wellMade p hp).isSignatureLevel_kind
  have hlength : (c.targetsOf t p).length = (t.ofProperty p).length := by
    rw [← hc.ids_targetsOf hp, List.length_map]
  rw [PropertyKind.allowsTargets_iff hlevel, hlength]
  cases hother : p.kind.isOther with
  | true =>
    -- a catch-all kind allows any number of targets
    revert hother hlevel
    cases p.kind <;> simp [PropertyKind.isOther, PropertyKind.isSignatureLevel,
      PropertyKind.group, PropertyGroup.isSignatureLevel, PropertyKind.multiplicity,
      PropertyKind.multiplicity?]
  | false =>
    rw [← DataObjectProperty.multiplicity_eq hother]
    rcases hp with ⟨o, ho, hheld⟩ | hall
    · obtain ⟨hall, hid⟩ := hc.multiplicity_of_holds ho hheld
      have hpos : 0 < (t.ofProperty p).length := List.length_pos_of_mem hid
      refine ⟨fun hzero => absurd hzero (Nat.ne_of_gt hpos), fun _ => ⟨hall, fun hkind => ?_⟩⟩
      have hone : p.multiplicity = .one := by
        rw [DataObjectProperty.multiplicity_eq hother, hkind]
        rfl
      have hle : (t.ofProperty p).length ≤ 1 := (hc.table p).length_le hone
      omega
    · have hall := hc.collection.multiplicity_eq_all p hall
      simp [hall, hc.table.eq_nil hall]

end IsSettled

end SignedDataObjects

/-- A collection that a run has filled is settled once its targets have been checked. -/
theorem Declarations.IsConsistent.isSettled {s : Declarations} (hs : s.IsConsistent)
    {c : SignedDataObjects} (hc : c ∈ s.collections)
    (hmade : ∀ p, s.Holds p → p.IsWellMade) (hchecked : c.checkTargets s.table = .ok ()) :
    c.IsSettled s.table where
  collection := hs.collections c hc
  ids := hs.ids_collection hc
  objects o ho := hs.objects o (List.mem_append_right _ (List.mem_flatMap.2 ⟨c, hc, ho⟩))
  table := hs.table
  wellMade p hp := by
    refine hmade p ?_
    rcases hp with ⟨o, ho, hp⟩ | hp
    · exact Or.inl ⟨o, List.mem_append_right _ (List.mem_flatMap.2 ⟨c, hc, ho⟩), hp⟩
    · exact Or.inr ⟨c, hc, hp⟩
  resolved := hchecked

end AdvancedSignature
