import AdvancedSignature.Proofs.Declaration.Attachment
import AdvancedSignature.Proofs.Reproduction.Basic

/-!
# Declaring on the targets of an entry

The declarations while a layout is produced anew.  `Declarations.Reproduces` ties them to the
entries that have been dealt with, and while an entry is being dealt with, to the part of it that
has: an entry counts up to its targets so far.

* `LayoutEntry.declareFault?`: what is wrong with declaring on one more target.  The bag of the data
  object looks at the property before the target set does, so this is not the fault that the check
  finds with the target, but there is one when the check finds one.
* `Reproduces.perform_declare_eq`: declaring on one more target fails with that fault.
* `Reproduces.follows_pointTo`: it is accepted exactly when nothing is wrong with the target.
-/

namespace AdvancedSignature

/-- The entry with these targets. -/
def LayoutEntry.upTo (e : LayoutEntry) (targets : List String) : LayoutEntry := { e with targets }

/-- The targets of a property are those for the references, where `refs` lists all references with
their data objects. -/
structure TargetTable.Records (refs : List (String × DataObjectId)) (p : DataObjectProperty)
    (references : List String) (t : TargetTable) : Prop where
  mem_iff : ∀ r ∈ refs, r.2 ∈ t.ofProperty p ↔ r.1 ∈ references
  eq_nil_iff : t.ofProperty p = [] ↔ references = []

/-- One more target is recorded under its reference. -/
theorem TargetTable.Records.push {refs : List (String × DataObjectId)} {p : DataObjectProperty}
    {references : List String} {t : TargetTable} (h : t.Records refs p references)
    (hfst : (refs.map Prod.fst).Nodup) (hsnd : (refs.map Prod.snd).Nodup) {target : String}
    {id : DataObjectId} (hmem : (target, id) ∈ refs) :
    (t.push p id).Records refs p (references ++ [target]) where
  mem_iff r hr := by
    have heq : r.2 = id ↔ r.1 = target := by
      constructor
      · exact fun hid => congrArg Prod.fst (List.inj_on_of_nodup_map hsnd hr hmem hid)
      · exact fun href => congrArg Prod.snd (List.inj_on_of_nodup_map hfst hr hmem href)
    simp only [TargetTable.ofProperty_push, if_true, List.mem_append, List.mem_singleton,
      h.mem_iff r hr, heq]
  eq_nil_iff := by simp [TargetTable.ofProperty_push]

/-- A property that has not been declared yet has no targets. -/
theorem TargetTable.records_nil (refs : List (String × DataObjectId)) {p : DataObjectProperty}
    {t : TargetTable} (h : t.ofProperty p = []) : t.Records refs p [] where
  mem_iff r _ := by simp [h]
  eq_nil_iff := by simp [h]

namespace LayoutEntry

variable (before : List LayoutEntry) (kind : PropertyKind) (earlier : List String) (target : String)

/-- What the bag of a data object finds wrong with a property, given the targets that have taken it
in. -/
def bagFault? : Option Error :=
  if kind = .dataObjectFormat then
    if target ∈ earlier ∨ ∃ f ∈ before, f.Formats target then some (.duplicatePropertyKind kind)
    else none
  else if target ∈ earlier then some (.duplicateInstance kind)
  else none

/-- What is wrong with declaring a property on one more target: the bag looks at it first. -/
def declareFault? : Option Error :=
  (bagFault? before kind earlier target).or (attachFault? kind earlier target)

variable {before kind earlier target}

/-- Nothing is wrong with declaring on a reference when nothing is wrong with the target. -/
theorem declareFault?_eq_none_iff {references : List String} (h : target ∈ references) :
    declareFault? before kind earlier target = none ↔
      targetFault? references before kind earlier target = none := by
  rw [declareFault?, Option.or_eq_none_iff, attachFault?_eq_none_iff, targetFault?_eq_none_iff,
    bagFault?]
  by_cases hkind : kind = .dataObjectFormat
  · by_cases hmem : target ∈ earlier
    · simp [hkind, hmem]
    · simp only [hkind, hmem, h, if_true, false_or, ite_eq_right_iff, reduceCtorEq, imp_false,
        not_exists, not_and, not_false_eq_true, true_and, forall_const]
      tauto
  · simp [hkind, h]

end LayoutEntry

/-- Recording a further target fails with what is wrong with that. -/
theorem TargetTable.Records.attach_eq {refs : List (String × DataObjectId)}
    {p : DataObjectProperty} {references : List String} {t : TargetTable}
    (h : t.Records refs p references) (ht : t.IsConsistent)
    (hmultiplicity : p.multiplicity = p.kind.multiplicity) {target : String} {id : DataObjectId}
    (hmem : (target, id) ∈ refs) :
    t.attach p id = okUnless (LayoutEntry.attachFault? p.kind references target) (t.push p id) := by
  have hrecorded : id ∈ t.ofProperty p ↔ target ∈ references := h.mem_iff _ hmem
  have hcap (hall : p.kind.multiplicity ≠ .all) :
      p.kind.multiplicity.cap = some (t.ofProperty p).length ↔
        p.kind = .dataObjectFormat ∧ references ≠ [] := by
    rw [← PropertyKind.multiplicity_eq_one_iff, ne_eq, ← h.eq_nil_iff, ← List.length_eq_zero_iff]
    cases hm : p.kind.multiplicity with
    | all => exact absurd hm hall
    | one =>
      have hle : (t.ofProperty p).length ≤ 1 := (ht p).length_le (hmultiplicity.trans hm)
      simp only [Multiplicity.cap, Option.some.injEq, true_and]
      omega
    | many => simp [Multiplicity.cap]
  simp only [attach, TargetSet.attach, TargetSet.isAttachedTo, targetSet,
    DataObjectProperty.targetSet, List.contains_iff_mem, hmultiplicity, hrecorded,
    LayoutEntry.attachFault?]
  by_cases hall : p.kind.multiplicity = .all
  · simp [hall, Except.map]
  · have hfull : p.kind.multiplicity = .one ∨ ¬ (p.kind = .dataObjectFormat ∧ references ≠ []) := by
      rw [PropertyKind.multiplicity_eq_one_iff]
      tauto
    simp only [hall, if_false, hcap hall]
    split_ifs with hrepeated hexceeded
    · rfl
    · rw [hfull.resolve_right (not_not_intro hexceeded)]
      rfl
    · rfl

namespace Declarations

/-- The declarations are those for the entries seen.  The descriptions are those of the references,
what is held has been made for an entry, a property of no entry has no targets yet, a data object
holds what targets it, and it holds a format when an entry presents its data. -/
structure Reproduces (refs : List (String × DataObjectId)) (cast : Cast)
    (seen : List (LayoutEntry × Nat)) (s : Declarations) : Prop where
  consistent : s.IsConsistent
  references : s.descriptions.map (fun d => (d.referenceId, d.id)) = refs
  collection : ∃ c, s.collections = [c]
  held : ∀ p, s.Holds p → ∃ f ∈ seen, p = cast.dataObject f.2
  fresh : ∀ n, (∀ f ∈ seen, f.2 ≠ n) → s.table.ofProperty (cast.dataObject n) = []
  hold : s.TargetsHold
  formats : ∀ d ∈ s.descriptions,
    PropertyKind.dataObjectFormat ∈ d.signed.entries.map HasKind.kind ↔
      ∃ f ∈ seen, f.1.Formats d.referenceId

/-- An action that must be accepted is, when its outcome says so. -/
theorem attempt_eq {s s' : Declarations} {a : Action} {o : Outcome} (h : s.perform a = (o, s')) :
    s.attempt a = if o = .accepted then .ok s' else .error o := by
  unfold attempt
  rw [h]
  cases o <;> rfl

namespace Reproduces

variable {refs : List (String × DataObjectId)} {cast : Cast} {seen : List (LayoutEntry × Nat)}
  {s : Declarations}

theorem nodup_ids (h : s.Reproduces refs cast seen) : (refs.map Prod.snd).Nodup := by
  have hids : refs.map Prod.snd = s.descriptions.map DataObjectDescription.id := by
    rw [← h.references, List.map_map]
    rfl
  rw [hids]
  exact h.consistent.ids_descriptions

theorem mem_refs (h : s.Reproduces refs cast seen) {d : DataObjectDescription}
    (hd : d ∈ s.descriptions) : (d.referenceId, d.id) ∈ refs :=
  h.references ▸ List.mem_map_of_mem hd

/-- A description is determined by its reference. -/
theorem eq_of_referenceId (h : s.Reproduces refs cast seen) (hfst : (refs.map Prod.fst).Nodup)
    {d d' : DataObjectDescription} (hd : d ∈ s.descriptions) (hd' : d' ∈ s.descriptions)
    (heq : d.referenceId = d'.referenceId) : d = d' := by
  have hreferences : refs.map Prod.fst = s.descriptions.map DataObjectDescription.referenceId := by
    rw [← h.references, List.map_map]
    rfl
  rw [hreferences] at hfst
  exact List.inj_on_of_nodup_map hfst hd hd' heq

/-- The description under a reference is found, and under nothing else. -/
theorem find?_eq (h : s.Reproduces refs cast seen) (target : String) :
    (target ∉ refs.map Prod.fst ∧
      (s.descriptions.find? fun d => d.referenceId == target) = none) ∨
    ∃ d ∈ s.descriptions, d.referenceId = target ∧
      (s.descriptions.find? fun d => d.referenceId == target) = some d := by
  cases hfind : s.descriptions.find? fun d => d.referenceId == target with
  | none =>
    refine Or.inl ⟨fun hmem => ?_, rfl⟩
    rw [← h.references, List.map_map] at hmem
    obtain ⟨d, hd, rfl⟩ := List.mem_map.1 hmem
    have hnone := List.find?_eq_none.1 hfind d hd
    simp at hnone
  | some d =>
    exact Or.inr ⟨d, List.mem_of_find?_eq_some hfind, by simpa using List.find?_some hfind, rfl⟩

/-- An entry that presents no data can be passed over. -/
theorem skip (h : s.Reproduces refs cast seen) {e : LayoutEntry × Nat}
    (he : ∀ r, ¬ e.1.Formats r) : s.Reproduces refs cast (seen ++ [e]) :=
  { h with
    held := fun p hp => by
      obtain ⟨f, hf, rfl⟩ := h.held p hp
      exact ⟨f, List.mem_append_left _ hf, rfl⟩
    fresh := fun n hn => h.fresh n fun f hf => hn f (List.mem_append_left _ hf)
    formats := fun d hd => by
      rw [h.formats d hd]
      simp [or_and_right, exists_or, he] }

/-! ## One target -/

variable {e : LayoutEntry} {n : Nat} {earlier : List String}

theorem exists_formats_upTo {reference : String} :
    (∃ f ∈ seen ++ [(e.upTo earlier, n)], f.1.Formats reference) ↔
      (∃ f ∈ seen, f.1.Formats reference) ∨
        (e.kind = .dataObjectFormat ∧ reference ∈ earlier) := by
  simp [or_and_right, exists_or, LayoutEntry.Formats, LayoutEntry.upTo]

/-- Taking a property into the bag of one more data object fails with what the bag finds. -/
theorem putOrAdd_eq (h : s.Reproduces refs cast (seen ++ [(e.upTo earlier, n)]))
    {p : DataObjectProperty} (hkind : p.kind = e.kind) (hlevel : e.kind.isSignatureLevel = false)
    (hrecords : s.table.Records refs p earlier) {d : DataObjectDescription}
    (hd : d ∈ s.descriptions) :
    (d.bagFor p).putOrAdd p =
      okUnless (LayoutEntry.bagFault? (seen.map Prod.fst) e.kind earlier d.referenceId)
        ((d.bagFor p).append p) := by
  have hobject := h.consistent.objects d (List.mem_append_left _ hd)
  have hheld : p ∈ (d.bagFor p).entries ↔ d.referenceId ∈ earlier := by
    rw [hobject.mem_bagFor_iff, ← hrecords.mem_iff _ (h.mem_refs hd)]
    exact ⟨hobject.target p, h.hold d (List.mem_append_left _ hd) p⟩
  have hput := PropertyKind.insertionPolicy_eq_put_iff hlevel
  rw [(hobject.bagFor p).toIsConsistent.putOrAdd_eq]
  have hkindOf : HasKind.kind p = e.kind := hkind
  simp only [hkindOf, hput, hheld, LayoutEntry.bagFault?]
  by_cases hformat : e.kind = .dataObjectFormat
  · have hbag : d.bagFor p = d.signed := if_neg (by rw [hkind, hformat]; decide)
    have hkinds : PropertyKind.dataObjectFormat ∈ d.signed.entries.map HasKind.kind ↔
        d.referenceId ∈ earlier ∨ ∃ f ∈ seen.map Prod.fst, f.Formats d.referenceId := by
      rw [h.formats d hd, exists_formats_upTo]
      simp [hformat, or_comm]
    simp only [hformat, if_true, hbag, hkinds]
    split_ifs <;> rfl
  · simp only [hformat, if_false]
    split_ifs <;> rfl

/-- After an accepted declaration the entry counts up to the target. -/
theorem declare (h : s.Reproduces refs cast (seen ++ [(e.upTo earlier, n)]))
    (hfst : (refs.map Prod.fst).Nodup) (hinjective : Function.Injective cast.dataObject)
    (hkind : (cast.dataObject n).kind = e.kind) {d : DataObjectDescription}
    (hd : d ∈ s.descriptions)
    (htaken : (d.bagFor (cast.dataObject n)).Admits (cast.dataObject n) ∧
      (s.table.targetSet (cast.dataObject n)).Accepts d.id) :
    Reproduces refs cast (seen ++ [(e.upTo (earlier ++ [d.referenceId]), n)])
      { s.replace (d.withProperty (cast.dataObject n)) with
        table := s.table.push (cast.dataObject n) d.id } where
  consistent := h.consistent.declare (List.mem_append_left _ hd) htaken.1 htaken.2
  references := by
    rw [← h.references]
    refine map_replaceIn _ fun o ho hid => ?_
    rw [DataObjectDescription.id_withProperty] at hid
    obtain rfl : o = d :=
      List.inj_on_of_nodup_map h.consistent.ids (List.mem_append_left _ ho)
        (List.mem_append_left _ hd) hid
    simp
  collection := by
    obtain ⟨c, hc⟩ := h.collection
    refine ⟨{ c with objects := replaceIn (d.withProperty (cast.dataObject n)) c.objects }, ?_⟩
    change s.collections.map _ = _
    rw [hc]
    rfl
  held q hq := by
    have hseen {q : DataObjectProperty} (hq : s.Holds q) :
        ∃ f ∈ seen ++ [(e.upTo (earlier ++ [d.referenceId]), n)], q = cast.dataObject f.2 := by
      obtain ⟨f, hf, rfl⟩ := h.held q hq
      rcases List.mem_append.1 hf with hf | hf
      · exact ⟨f, List.mem_append_left _ hf, rfl⟩
      · obtain rfl := List.mem_singleton.1 hf
        exact ⟨_, List.mem_append_right _ List.mem_cons_self, rfl⟩
    replace hq : (s.replace (d.withProperty (cast.dataObject n))).Holds q := hq
    rcases hq.of_replace with hq | hq
    · exact hseen hq
    · rcases DataObjectDescription.holds_withProperty.1 hq with hq | rfl
      · exact hseen (Or.inl ⟨d, List.mem_append_left _ hd, hq⟩)
      · exact ⟨_, List.mem_append_right _ List.mem_cons_self, rfl⟩
  fresh m hm := by
    -- the one property whose targets change is that of the last entry seen
    have hne : n ≠ m := hm _ (List.mem_append_right _ List.mem_cons_self)
    have hm' : ∀ f ∈ seen ++ [(e.upTo earlier, n)], f.2 ≠ m := by
      intro f hf
      rcases List.mem_append.1 hf with hf | hf
      · exact hm f (List.mem_append_left _ hf)
      · exact List.mem_singleton.1 hf ▸ hne
    change (s.table.push (cast.dataObject n) d.id).ofProperty (cast.dataObject m) = []
    rw [TargetTable.ofProperty_push, if_neg fun heq => hne (hinjective heq).symm, h.fresh m hm']
  hold o ho q hq := by
    replace hq : o.id ∈ (s.table.push (cast.dataObject n) d.id).ofProperty q := hq
    rw [TargetTable.ofProperty_push] at hq
    rcases mem_objects_replace ho with rfl | ⟨ho, hid⟩
    · rw [DataObjectDescription.holds_withProperty]
      rw [DataObjectDescription.id_withProperty] at hq
      split_ifs at hq with hsame
      · exact Or.inr hsame
      · exact Or.inl (h.hold d (List.mem_append_left _ hd) q hq)
    · rw [DataObjectDescription.id_withProperty] at hid
      split_ifs at hq with hsame
      · subst hsame
        exact h.hold o ho _ ((List.mem_append.1 hq).resolve_right (by simpa using hid))
      · exact h.hold o ho q hq
  formats o' ho' := by
    -- the data object under the target may get a format, the others keep what they have
    obtain ⟨o, ho, rfl⟩ := List.mem_map.1 ho'
    rw [DataObjectDescription.id_withProperty]
    have hformats := h.formats o ho
    rw [exists_formats_upTo] at hformats ⊢
    split_ifs with hid
    · obtain rfl : o = d :=
        List.inj_on_of_nodup_map h.consistent.ids (List.mem_append_left _ ho)
          (List.mem_append_left _ hd) hid
      rw [DataObjectDescription.format_mem_kinds_withProperty, hformats, hkind,
        DataObjectDescription.referenceId_withProperty]
      simp only [List.mem_append, List.mem_singleton, or_true, and_true]
      exact or_assoc.trans (or_congr_right (or_iff_right_of_imp And.left))
    · have hreference : o.referenceId ≠ d.referenceId := fun heq =>
        hid (h.eq_of_referenceId hfst ho hd heq ▸ rfl)
      rw [hformats]
      simp [hreference]

/-- A target cannot be recorded for a property for all data objects. -/
theorem attempt_attach (h : s.Reproduces refs cast seen) {p : DataObjectProperty}
    (hall : p.multiplicity = .all) (id : DataObjectId) :
    ∃ o, s.attempt (.attach p id) = .error o := by
  obtain ⟨o, s', heq, hchange⟩ := h.consistent.change (.attach p id)
  rw [attempt_eq heq]
  cases hchange with
  | unknown | refused => exact ⟨_, rfl⟩
  | attach hid haccepts => exact absurd hall haccepts.1

/-- A data object takes in a property when nothing is wrong with declaring it there. -/
theorem admits_of_declareFault? (h : s.Reproduces refs cast (seen ++ [(e.upTo earlier, n)]))
    {p : DataObjectProperty} (hkind : p.kind = e.kind)
    (hmultiplicity : p.multiplicity = e.kind.multiplicity)
    (hlevel : e.kind.isSignatureLevel = false) (hrecords : s.table.Records refs p earlier)
    {d : DataObjectDescription} (hd : d ∈ s.descriptions)
    (hnone : LayoutEntry.declareFault? (seen.map Prod.fst) e.kind earlier d.referenceId = none) :
    (d.bagFor p).Admits p ∧ (s.table.targetSet p).Accepts d.id := by
  obtain ⟨hbag, hattach⟩ := Option.or_eq_none_iff.1 hnone
  have hobject := h.consistent.objects d (List.mem_append_left _ hd)
  constructor
  · have hput := h.putOrAdd_eq hkind hlevel hrecords hd
    rw [hbag] at hput
    exact (((hobject.bagFor p).toIsConsistent.putOrAdd_eq_ok_iff p).1 hput).1
  · have hrecord := hrecords.attach_eq h.consistent.table (by rw [hmultiplicity, hkind])
      (h.mem_refs hd)
    rw [hkind, hattach] at hrecord
    exact (TargetTable.attach_eq_ok_iff.1 hrecord).1

/-- **Declaring on one more data object fails with what is wrong with that.** -/
theorem perform_declare_eq (h : s.Reproduces refs cast (seen ++ [(e.upTo earlier, n)]))
    {p : DataObjectProperty} (hkind : p.kind = e.kind)
    (hmultiplicity : p.multiplicity = e.kind.multiplicity)
    (hlevel : e.kind.isSignatureLevel = false) (hrecords : s.table.Records refs p earlier)
    {d : DataObjectDescription} (hd : d ∈ s.descriptions) :
    s.perform (.declare d.id p) =
      match LayoutEntry.declareFault? (seen.map Prod.fst) e.kind earlier d.referenceId with
      | some fault => (.refused fault, s)
      | none =>
          (.accepted, { s.replace (d.withProperty p) with table := s.table.push p d.id }) := by
  have hmem : d ∈ s.objects := List.mem_append_left _ hd
  have hfound : s.object? d.id = some d := h.consistent.object?_eq_some_iff.2 ⟨hmem, rfl⟩
  have hobject := h.consistent.objects d hmem
  have hattach := hrecords.attach_eq h.consistent.table (by rw [hmultiplicity, hkind])
    (h.mem_refs hd)
  rw [hkind] at hattach
  simp only [perform, hfound, declareOn, LayoutEntry.declareFault?,
    DataObjectDescription.declare_eq hobject.signed.toIsConsistent hobject.unsigned.toIsConsistent,
    h.putOrAdd_eq hkind hlevel hrecords hd, hattach]
  cases LayoutEntry.bagFault? (seen.map Prod.fst) e.kind earlier d.referenceId with
  | some fault => simp only [okUnless_some, Option.some_or, Outcome.ofExcept,
      h.consistent.replace_self hmem]
  | none =>
    cases LayoutEntry.attachFault? e.kind earlier d.referenceId with
    | some fault => simp only [okUnless_none, okUnless_some, Option.none_or, Outcome.ofExcept,
        h.consistent.replace_self hmem]
    | none => simp only [okUnless_none, Option.none_or, Outcome.ofExcept]

/-- **Pointing a property at one more reference follows the fault of the target.** -/
theorem follows_pointTo (h : s.Reproduces refs cast (seen ++ [(e.upTo earlier, n)]))
    (hfst : (refs.map Prod.fst).Nodup) (hinjective : Function.Injective cast.dataObject)
    (hkind : (cast.dataObject n).kind = e.kind)
    (hmultiplicity : (cast.dataObject n).multiplicity = e.kind.multiplicity)
    (hlevel : e.kind.isSignatureLevel = false)
    (hrecords : s.table.Records refs (cast.dataObject n) earlier) (target : String) :
    Follows (s.pointTo (cast.dataObject n) target)
      (LayoutEntry.targetFault? (refs.map Prod.fst) (seen.map Prod.fst) e.kind earlier target)
      fun s' => s'.Reproduces refs cast (seen ++ [(e.upTo (earlier ++ [target]), n)]) ∧
        s'.table.Records refs (cast.dataObject n) (earlier ++ [target]) := by
  rcases h.find?_eq target with ⟨hnot, hnone⟩ | ⟨d, hd, rfl, hsome⟩
  · have hfault : LayoutEntry.targetFault? (refs.map Prod.fst) (seen.map Prod.fst) e.kind earlier
        target = some (.unresolvedTarget s!"{e.kind.name} -> #{target}") := if_pos hnot
    rw [hfault]
    exact ⟨.unknown, by simp only [pointTo, hnone]⟩
  · have hperform := h.perform_declare_eq hkind hmultiplicity hlevel hrecords hd
    have hreference : d.referenceId ∈ refs.map Prod.fst := List.mem_map_of_mem (h.mem_refs hd)
    have hnone : LayoutEntry.declareFault? (seen.map Prod.fst) e.kind earlier d.referenceId = none ↔
        LayoutEntry.targetFault? (refs.map Prod.fst) (seen.map Prod.fst) e.kind earlier
          d.referenceId = none := LayoutEntry.declareFault?_eq_none_iff hreference
    simp only [pointTo, hsome]
    cases hfault : LayoutEntry.targetFault? (refs.map Prod.fst) (seen.map Prod.fst) e.kind earlier
        d.referenceId with
    | some fault =>
      by_cases hall : (cast.dataObject n).multiplicity = .all
      · rw [if_pos hall]
        exact h.attempt_attach hall d.id
      · rw [if_neg hall]
        cases hdeclare : LayoutEntry.declareFault? (seen.map Prod.fst) e.kind earlier
            d.referenceId with
        | some error =>
          rw [hdeclare] at hperform
          exact ⟨.refused error, attempt_eq hperform⟩
        | none =>
          rw [hnone.1 hdeclare] at hfault
          cases hfault
    | none =>
      have hdeclare := hnone.2 hfault
      rw [hdeclare] at hperform
      rw [LayoutEntry.targetFault?_eq_none_iff] at hfault
      rw [if_neg (by rw [hmultiplicity]; exact hfault.2.1)]
      have htaken := h.admits_of_declareFault? hkind hmultiplicity hlevel hrecords hd hdeclare
      refine ⟨_, attempt_eq hperform, ?_, ?_⟩
      · exact h.declare hfst hinjective hkind hd htaken
      · exact hrecords.push hfst h.nodup_ids (h.mem_refs hd)

/-! ## All targets -/

/-- Pointing a property at references follows the first fault among them. -/
theorem follows_foldlM (hfst : (refs.map Prod.fst).Nodup)
    (hinjective : Function.Injective cast.dataObject)
    (hkind : (cast.dataObject n).kind = e.kind)
    (hmultiplicity : (cast.dataObject n).multiplicity = e.kind.multiplicity)
    (hlevel : e.kind.isSignatureLevel = false) (targets : List String)
    (h : s.Reproduces refs cast (seen ++ [(e.upTo earlier, n)]))
    (hrecords : s.table.Records refs (cast.dataObject n) earlier) :
    Follows (targets.foldlM (pointTo (cast.dataObject n)) s)
      (LayoutEntry.targetsFault? (refs.map Prod.fst) (seen.map Prod.fst) e.kind earlier targets)
      fun s' => s'.Reproduces refs cast (seen ++ [(e.upTo (earlier ++ targets), n)]) ∧
        s'.table.Records refs (cast.dataObject n) (earlier ++ targets) := by
  induction targets generalizing s earlier with
  | nil => exact ⟨s, rfl, by rw [List.append_nil]; exact ⟨h, hrecords⟩⟩
  | cons target rest ih =>
    rw [List.foldlM_cons, LayoutEntry.targetsFault?]
    refine (h.follows_pointTo hfst hinjective hkind hmultiplicity hlevel hrecords target).bind ?_
    rintro - s' ⟨h', hrecords'⟩
    have hrest := ih h' hrecords'
    rwa [List.append_assoc, List.singleton_append] at hrest

end Reproduces

end Declarations

end AdvancedSignature
