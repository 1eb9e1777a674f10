import AdvancedSignature.Proofs.Interleaving.Simulation
import AdvancedSignature.Proofs.QualifyingProperties.Assembly
import AdvancedSignature.Proofs.QualifyingProperties.Layout
import Mathlib.Data.List.Find

/-!
# What an operation assembles

`Declarations.produce` assembles a signature over a collection and lists its properties as a layout,
with the identifiers of the references and of the targets.  For a collection of the operation's own
this comes to the same as over what the operation sees (`Separates.produce_seenBy`).  Only the
wording of an error differs, which gives the number of a data object.
-/

namespace AdvancedSignature

/-- Assembles a signature over the collection and looks at it as a layout. -/
def Declarations.produce (s : Declarations) (objects : SignedDataObjects) (collector : Collector)
    (id : InstanceId) (certificate : SigningCertificate) (policy : Option SignaturePolicy) :
    Except Error (QualifyingProperties × PropertyLayout) := do
  let q ← QualifyingProperties.assemble collector objects s.table id certificate policy
  let l ← q.layout objects s.table
  return (q, l)

namespace SignedDataObjects

variable {h : Holdings} {c : SignedDataObjects} {p : DataObjectProperty}

theorem signedProperties_seenBy : (c.seenBy h).signedProperties = c.signedProperties := by
  simp only [signedProperties, seenBy, List.flatMap_map]
  rfl

theorem unsignedProperties_seenBy : (c.seenBy h).unsignedProperties = c.unsignedProperties := by
  simp only [unsignedProperties, seenBy, List.flatMap_map]
  rfl

theorem holds_seenBy : (c.seenBy h).Holds p ↔ c.Holds p := by
  refine or_congr ⟨?_, ?_⟩ Iff.rfl
  · rintro ⟨_, hmem, hp⟩
    obtain ⟨o, ho, rfl⟩ := List.mem_map.1 hmem
    exact ⟨o, ho, hp⟩
  · rintro ⟨o, ho, hp⟩
    exact ⟨_, List.mem_map_of_mem ho, hp⟩

/-- Of the operation's own data objects the same are in the collection under their names. -/
theorem includes_seenBy (hc : ∀ o ∈ c.objects, o.id ∈ h.objects) {ids : List DataObjectId} :
    (c.seenBy h).Includes (ids.map h.name) ↔ c.Includes ids := by
  refine List.forall_mem_map.trans (forall₂_congr fun id _ => ⟨?_, ?_⟩)
  · rintro ⟨_, hmem, hname⟩
    obtain ⟨o, ho, rfl⟩ := List.mem_map.1 hmem
    exact ⟨o, ho, (Holdings.name_eq_iff (hc o ho)).1 hname⟩
  · rintro ⟨o, ho, rfl⟩
    exact ⟨_, List.mem_map_of_mem ho, rfl⟩

theorem get?_seenBy (hc : ∀ o ∈ c.objects, o.id ∈ h.objects) (id : DataObjectId) :
    (c.seenBy h).get? (h.name id) = (c.get? id).map (·.seenBy h) := by
  rw [get?, get?, seenBy, List.find?_map]
  refine congrArg _ (List.find?_congr fun o ho => ?_)
  rw [Bool.eq_iff_iff, Function.comp_apply, beq_iff_eq, beq_iff_eq]
  exact Holdings.name_eq_iff (hc o ho)

/-- A property points at the same references. -/
theorem referenceIds_targetsOf_seenBy {t : TargetTable} (hc : ∀ o ∈ c.objects, o.id ∈ h.objects)
    (ht : ∀ id ∈ t.ofProperty p, id ∈ h.objects) :
    ((c.seenBy h).targetsOf (t.seenBy h) p).map DataObjectDescription.referenceId =
      (c.targetsOf t p).map DataObjectDescription.referenceId := by
  rw [targetsOf, targetsOf, TargetTable.ofProperty_seenBy ht, List.filterMap_map,
    List.map_filterMap, List.map_filterMap]
  refine List.filterMap_congr fun id _ => ?_
  rw [Function.comp_apply, get?_seenBy hc, Option.map_map]
  rfl

end SignedDataObjects

namespace Declarations.Separates

variable {s : Declarations} {h : Holdings} {own : DataObjectProperty → Prop} {i : Nat}
  {c : SignedDataObjects} {p : DataObjectProperty}

/-- What a collection of the operation holds targets data objects of the operation. -/
theorem targets_of_holds (hs : s.Separates h own) (hi : i ∈ h.collections)
    (hc : s.collections[i]? = some c) (hp : c.Holds p) :
    ∀ id ∈ s.table.ofProperty p, id ∈ h.objects := by
  have hmem := List.mem_of_getElem? hc
  rcases hp with ⟨o, ho, hp⟩ | hall
  · have hobject : o ∈ s.objects := List.mem_append_right _ (List.mem_flatMap.2 ⟨c, hmem, ho⟩)
    -- the data object that holds the property is one of its targets
    have hself : own p :=
      (hs.targets ((hs.consistent.objects o hobject).target p hp)).1 ((hs.inside hc o ho).2 hi)
    exact fun id hid => (hs.targets hid).2 hself
  · have hmultiplicity := (hs.consistent.collections c hmem).multiplicity_eq_all p hall
    rw [hs.consistent.table.eq_nil hmultiplicity]
    exact fun id hid => absurd hid List.not_mem_nil

theorem includes_seenBy (hs : s.Separates h own) (hi : i ∈ h.collections)
    (hc : s.collections[i]? = some c) (hp : c.Holds p) :
    (c.seenBy h).Includes ((s.seenBy h).table.ofProperty p) ↔ c.Includes (s.table.ofProperty p) := by
  change (c.seenBy h).Includes ((s.table.seenBy h).ofProperty p) ↔ _
  rw [TargetTable.ofProperty_seenBy (hs.targets_of_holds hi hc hp)]
  exact SignedDataObjects.includes_seenBy fun o ho => (hs.inside hc o ho).2 hi

/-- The targets are checked with the same outcome, but for the wording of an error. -/
theorem checkTargets_seenBy (hs : s.Separates h own) (hi : i ∈ h.collections)
    (hc : s.collections[i]? = some c) :
    (c.checkTargets s.table = .ok () ∧ (c.seenBy h).checkTargets (s.seenBy h).table = .ok ()) ∨
      ∃ reason reason', c.checkTargets s.table = .error (.unresolvedTarget reason) ∧
        (c.seenBy h).checkTargets (s.seenBy h).table = .error (.unresolvedTarget reason') := by
  rcases c.checkTargets_cases s.table with ⟨hok, hall⟩ | ⟨e, he, p, hp, hmisses⟩
  · rcases (c.seenBy h).checkTargets_cases (s.seenBy h).table with
      ⟨hok', -⟩ | ⟨e', -, p, hp, hmisses⟩
    · exact Or.inl ⟨hok, hok'⟩
    · have hp := SignedDataObjects.holds_seenBy.1 hp
      exact absurd ((hs.includes_seenBy hi hc hp).2 (hall p hp)) hmisses.not_includes
  · rcases (c.seenBy h).checkTargets_cases (s.seenBy h).table with
      ⟨-, hall⟩ | ⟨e', he', p', hp', hmisses'⟩
    · have hincludes := hall p (SignedDataObjects.holds_seenBy.2 hp)
      exact absurd ((hs.includes_seenBy hi hc hp).1 hincludes) hmisses.not_includes
    · obtain ⟨id, -, -, rfl⟩ := hmisses
      obtain ⟨id', -, -, rfl⟩ := hmisses'
      exact Or.inr ⟨_, _, he, he'⟩

/-- Properties whose targets are in the collection have the same layout. -/
theorem layout_seenBy (hs : s.Separates h own) (hi : i ∈ h.collections)
    (hc : s.collections[i]? = some c) {q : QualifyingProperties}
    (hq : ∀ p ∈ q.properties, ∀ d, p.dataObject? = some d →
      c.Holds d ∧ c.Includes (s.table.ofProperty d)) :
    q.layout (c.seenBy h) (s.seenBy h).table = q.layout c s.table := by
  have hentry (p : QualifyingProperty) (hp : p ∈ q.properties) :
      p.layoutEntry (c.seenBy h) (s.seenBy h).table = .ok (p.entryIn c s.table) ∧
        p.layoutEntry c s.table = .ok (p.entryIn c s.table) := by
    cases hd : p.dataObject? with
    | none =>
      simp only [QualifyingProperty.layoutEntry, QualifyingProperty.entryIn,
        QualifyingProperty.targetsIn, hd, and_self]
    | some d =>
      obtain ⟨hholds, hincludes⟩ := hq p hp d hd
      have hseen := (hs.includes_seenBy hi hc hholds).2 hincludes
      have htargets := SignedDataObjects.referenceIds_targetsOf_seenBy
        (fun o ho => (hs.inside hc o ho).2 hi) (hs.targets_of_holds hi hc hholds)
      have hsame : p.entryIn (c.seenBy h) (s.seenBy h).table = p.entryIn c s.table := by
        simp only [QualifyingProperty.entryIn, QualifyingProperty.targetsIn, hd]
        exact congrArg _ htargets
      rw [← QualifyingProperty.targets_of_dataObject? hd] at hseen hincludes
      exact ⟨hsame ▸ QualifyingProperty.layoutEntry_eq hseen,
        QualifyingProperty.layoutEntry_eq hincludes⟩
  rw [QualifyingProperties.layout, QualifyingProperties.layout,
    mapM_eq_ok_map fun p hp => (hentry p hp).1, mapM_eq_ok_map fun p hp => (hentry p hp).2,
    SignedDataObjects.referenceIds_seenBy]

/-- **What an operation assembles is what it would assemble of what it sees.** -/
theorem produce_seenBy (hs : s.Separates h own) (hi : i ∈ h.collections)
    (hc : s.collections[i]? = some c) (collector : Collector) (id : InstanceId)
    (certificate : SigningCertificate) (policy : Option SignaturePolicy) :
    ((s.seenBy h).produce (c.seenBy h) collector id certificate policy).mapError Error.cause =
      (s.produce c collector id certificate policy).mapError Error.cause := by
  unfold produce
  rcases hs.checkTargets_seenBy hi hc with ⟨hok, hok'⟩ | ⟨reason, reason', he, he'⟩
  · have hassemble : QualifyingProperties.assemble collector (c.seenBy h) (s.seenBy h).table id
        certificate policy =
          QualifyingProperties.assemble collector c s.table id certificate policy := by
      unfold QualifyingProperties.assemble
      rw [hok, hok', SignedDataObjects.signedProperties_seenBy,
        SignedDataObjects.unsignedProperties_seenBy]
    rw [hassemble]
    cases hq : QualifyingProperties.assemble collector c s.table id certificate policy with
    | error e => rfl
    | ok q =>
      have hlayout := hs.layout_seenBy hi hc fun p hp d hd =>
        QualifyingProperties.holds_of_assemble hq hp hd
      rw [ok_bind, ok_bind, hlayout]
  · unfold QualifyingProperties.assemble
    rw [he, he']
    rfl

end Declarations.Separates

end AdvancedSignature
