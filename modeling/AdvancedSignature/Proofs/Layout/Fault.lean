import AdvancedSignature.Layout.Basic
import AdvancedSignature.Proofs.Outcome

/-!
# The first fault of a layout

What is wrong with a layout, read off its entries.  The fault of an entry depends on the entries
before it and that of a target on the targets before it in the entry, and on nothing else: there
are no containers here and no data objects, only the texts of the layout.

* `LayoutEntry.fault?` is the first thing wrong with an entry, `PropertyLayout.fault?` with a
  layout.
* `LayoutEntry.targetsFault?_eq_none_iff`, `LayoutEntry.fault?_eq_none_iff` and
  `PropertyLayout.fault?_eq_none_iff` say when nothing is wrong.
-/

namespace AdvancedSignature

/-! ## Kinds of data-object properties -/

namespace PropertyKind

variable {k : PropertyKind}

theorem isSignatureLevel_eq {g : PropertyGroup} (h : k.group = g) :
    k.isSignatureLevel = g.isSignatureLevel := congrArg PropertyGroup.isSignatureLevel h

/-- Of the data-object kinds only the format is put. -/
theorem insertionPolicy_eq_put_iff (h : k.isSignatureLevel = false) :
    k.insertionPolicy = .put ↔ k = .dataObjectFormat := by
  revert h
  cases k <;> decide

/-- Of all kinds only the format is for one data object. -/
theorem multiplicity_eq_one_iff : k.multiplicity = .one ↔ k = .dataObjectFormat := by
  cases k <;> decide

end PropertyKind

/-! ## Targets -/

namespace LayoutEntry

/-- The entry presents the data of the reference. -/
def Formats (e : LayoutEntry) (reference : String) : Prop :=
  e.kind = .dataObjectFormat ∧ reference ∈ e.targets

instance (e : LayoutEntry) (reference : String) : Decidable (e.Formats reference) :=
  inferInstanceAs (Decidable (_ ∧ _))

variable (references : List String) (before : List LayoutEntry) (kind : PropertyKind)

/-- What is wrong with a target of a property, given the targets before it. -/
def targetFault? (earlier : List String) (target : String) : Option Error :=
  if target ∉ references then some (.unresolvedTarget s!"{kind.name} -> #{target}")
  else if kind.multiplicity = .all then some (.appliesToAllDataObjects kind)
  else if target ∈ earlier then some (.alreadyAttachedToTarget kind)
  else if kind = .dataObjectFormat ∧ earlier ≠ [] then some (.multiplicityExceeded kind .one)
  else if kind = .dataObjectFormat ∧ ∃ f ∈ before, f.Formats target then
    some (.duplicatePropertyKind kind)
  else none

/-- What is wrong with recording a target of a property, given the targets before it. -/
def attachFault? (earlier : List String) (target : String) : Option Error :=
  if kind.multiplicity = .all then some (.appliesToAllDataObjects kind)
  else if target ∈ earlier then some (.alreadyAttachedToTarget kind)
  else if kind = .dataObjectFormat ∧ earlier ≠ [] then some (.multiplicityExceeded kind .one)
  else none

/-- What is wrong with one more format of a target. -/
def formatFault? (target : String) : Option Error :=
  if kind = .dataObjectFormat ∧ ∃ f ∈ before, f.Formats target then
    some (.duplicatePropertyKind kind)
  else none

/-- The first thing wrong with targets of a property, given those before them. -/
def targetsFault? (earlier : List String) : List String → Option Error
  | [] => none
  | target :: rest =>
      (targetFault? references before kind earlier target).or
        (targetsFault? (earlier ++ [target]) rest)

variable {references before kind}

theorem isRefusal_of_targetsFault? {earlier rest : List String} {e : Error}
    (h : targetsFault? references before kind earlier rest = some e) : e.IsRefusal := by
  induction rest generalizing earlier with
  | nil => cases h
  | cons target rest ih =>
    rcases Option.or_eq_some_iff.1 h with h | ⟨-, h⟩
    · unfold targetFault? at h
      split_ifs at h <;> cases h <;> exact ⟨rfl, by simp⟩
    · exact ih h

/-- A reference is recorded first and gets the property then. -/
theorem targetFault?_of_mem {earlier : List String} {target : String} (h : target ∈ references) :
    targetFault? references before kind earlier target =
      (attachFault? kind earlier target).or (formatFault? before kind target) := by
  unfold targetFault? attachFault? formatFault?
  rw [if_neg (not_not_intro h)]
  split_ifs <;> rfl

theorem attachFault?_eq_none_iff {earlier : List String} {target : String} :
    attachFault? kind earlier target = none ↔
      kind.multiplicity ≠ .all ∧ target ∉ earlier ∧ (kind = .dataObjectFormat → earlier = []) := by
  unfold attachFault?
  split_ifs <;> simp_all

theorem targetFault?_eq_none_iff {earlier : List String} {target : String} :
    targetFault? references before kind earlier target = none ↔
      target ∈ references ∧ kind.multiplicity ≠ .all ∧ target ∉ earlier ∧
        (kind = .dataObjectFormat → earlier = [] ∧ ∀ f ∈ before, ¬ f.Formats target) := by
  unfold targetFault?
  by_cases href : target ∈ references
  · by_cases hall : kind.multiplicity = .all
    · simp [href, hall]
    by_cases hmem : target ∈ earlier
    · simp [href, hall, hmem]
    by_cases hkind : kind = .dataObjectFormat
    · subst hkind
      by_cases hnil : earlier = []
      · simp [href, hall, hnil]
      · simp [href, hall, hmem, hnil]
    · simp [href, hall, hmem, hkind]
  · simp [href]

theorem targetsFault?_eq_none_iff {earlier rest : List String} :
    targetsFault? references before kind earlier rest = none ↔
      (∀ t ∈ rest, t ∈ references) ∧ (∀ t ∈ rest, t ∉ earlier) ∧ rest.Nodup ∧
        (rest ≠ [] → kind.multiplicity ≠ .all ∧
          (kind = .dataObjectFormat → earlier = [] ∧ rest.length = 1)) ∧
        (kind = .dataObjectFormat → ∀ f ∈ before, ∀ t ∈ rest, ¬ f.Formats t) := by
  induction rest generalizing earlier with
  | nil => simp [targetsFault?]
  | cons target rest ih =>
    simp only [targetsFault?, Option.or_eq_none_iff, targetFault?_eq_none_iff, ih]
    constructor
    · rintro ⟨⟨href, hall, hearlier, hone⟩, hrefs, hlater, hnodup, hrest, hformats⟩
      refine ⟨?_, ?_, ?_, ?_, ?_⟩
      · exact List.forall_mem_cons.2 ⟨href, hrefs⟩
      · refine List.forall_mem_cons.2 ⟨hearlier, fun t ht hmem => ?_⟩
        exact hlater t ht (List.mem_append_left _ hmem)
      · refine List.nodup_cons.2 ⟨fun hmem => ?_, hnodup⟩
        exact hlater target hmem (List.mem_append_right _ (List.mem_singleton_self target))
      · refine fun _ => ⟨hall, fun hkind => ⟨(hone hkind).1, ?_⟩⟩
        -- a second target would find the first one before it
        have hnil : rest = [] := by
          by_contra hne
          simpa using ((hrest hne).2 hkind).1
        simp [hnil]
      · intro hkind f hf
        exact List.forall_mem_cons.2 ⟨(hone hkind).2 f hf, hformats hkind f hf⟩
    · rintro ⟨hrefs, hearlier, hnodup, hrest, hformats⟩
      obtain ⟨href, hrefs⟩ := List.forall_mem_cons.1 hrefs
      obtain ⟨htarget, hlater⟩ := List.forall_mem_cons.1 hearlier
      obtain ⟨hnotmem, hnodup⟩ := List.nodup_cons.1 hnodup
      obtain ⟨hall, hone⟩ := hrest (List.cons_ne_nil _ _)
      refine ⟨⟨href, hall, htarget, fun hkind => ⟨(hone hkind).1, fun f hf => ?_⟩⟩,
        hrefs, fun t ht => ?_, hnodup, fun hne => ⟨hall, fun hkind => ?_⟩,
        fun hkind f hf t ht => ?_⟩
      · exact hformats hkind f hf target List.mem_cons_self
      · have hne : t ≠ target := fun h => hnotmem (h ▸ ht)
        simpa [hne] using hlater t ht
      · have hlength := (hone hkind).2
        exact absurd (List.eq_nil_of_length_eq_zero (by simpa using hlength)) hne
      · exact hformats hkind f hf t (List.mem_cons_of_mem _ ht)

end LayoutEntry

/-! ## Entries and layouts -/

/-- How many references a property of the kind points at. -/
def PropertyKind.AllowsTargets (n : Nat) : PropertyKind → Prop
  | .allDataObjectsCommitmentType | .allDataObjectsTimeStamp => n = 0
  | .dataObjectFormat => n = 1
  | .commitmentType | .individualDataObjectsTimeStamp => 1 ≤ n
  | _ => True

/-- On a data-object kind the number of targets is right when it fits the multiplicity and there
is a target where one is needed. -/
theorem PropertyKind.allowsTargets_iff {k : PropertyKind} (h : k.isSignatureLevel = false)
    (n : Nat) :
    k.AllowsTargets n ↔
      (n = 0 → k.multiplicity = .all ∨ k.isOther = true) ∧
        (n ≠ 0 → k.multiplicity ≠ .all ∧ (k = .dataObjectFormat → n = 1)) := by
  revert h
  cases k <;>
    simp [isSignatureLevel, PropertyGroup.isSignatureLevel, group, AllowsTargets, isOther,
      multiplicity, multiplicity?] <;> omega

/-- A property of the kind is about data objects that it has to name. -/
def PropertyKind.NeedsTarget (k : PropertyKind) : Prop :=
  k = .dataObjectFormat ∨ k = .commitmentType ∨ k = .individualDataObjectsTimeStamp

/-- Within the multiplicity of the kind the number of targets is right when there is a target where
one is needed. -/
theorem PropertyKind.allowsTargets_iff_needsTarget {k : PropertyKind} {n : Nat}
    (hall : k.multiplicity = .all → n = 0) (hone : k.multiplicity = .one → n ≤ 1) :
    k.AllowsTargets n ↔ (k.NeedsTarget → n ≠ 0) := by
  revert hall hone
  cases k <;> simp [AllowsTargets, NeedsTarget, multiplicity, multiplicity?] <;> omega

namespace LayoutEntry

variable (references : List String) (before : List LayoutEntry)

/-- The first thing wrong with an entry, given the entries before it. -/
def fault? (e : LayoutEntry) : Option Error :=
  if e.kind.group ≠ e.container then some (.misplacedProperty e.kind (.group e.container))
  else if e.kind.isSignatureLevel then
    if e.kind.insertionPolicy = .put ∧ e.kind ∈ before.map LayoutEntry.kind then
      some (.duplicatePropertyKind e.kind)
    else none
  else if e.targets = [] then
    if e.kind.multiplicity = .all ∨ e.kind.isOther then none else some (.missingTarget e.kind)
  else targetsFault? references before e.kind [] e.targets

/-- The entry is right by itself: it stands where its kind belongs, and if it is about data
objects, it points at distinct references of the signature, at as many as its kind allows. -/
structure IsSound (e : LayoutEntry) : Prop where
  inPlace : e.container = e.kind.group
  resolved : e.kind.isSignatureLevel = false → ∀ t ∈ e.targets, t ∈ references
  distinct : e.kind.isSignatureLevel = false → e.targets.Nodup
  allowed : e.kind.AllowsTargets e.targets.length

/-- Two entries can stand in one layout: they are not of one signature-level kind that is put, and
they do not present the data of one reference. -/
structure Compatible (f e : LayoutEntry) : Prop where
  single : e.kind.isSignatureLevel = true → e.kind.insertionPolicy = .put → f.kind ≠ e.kind
  formats : ∀ t, ¬ (f.Formats t ∧ e.Formats t)

variable {references before}

theorem isRefusal_of_fault? {entry : LayoutEntry} {e : Error}
    (h : entry.fault? references before = some e) : e.IsRefusal := by
  unfold fault? at h
  split_ifs at h
  · cases h
    exact ⟨rfl, by simp⟩
  · cases h
    exact ⟨rfl, by simp⟩
  · cases h
    exact ⟨rfl, by simp⟩
  · exact isRefusal_of_targetsFault? h

/-- A signature-level entry is wrong when it is not where it belongs, and when its kind is put and
was there before. -/
theorem fault?_eq_none_iff_of_signature {e : LayoutEntry} (hplace : e.kind.group = e.container)
    (hlevel : e.kind.isSignatureLevel = true) :
    e.fault? references before = none ↔
      e.IsSound references ∧ ∀ f ∈ before, f.Compatible e := by
  have hallowed : e.kind.AllowsTargets e.targets.length := by
    revert hlevel
    cases e.kind <;>
      simp [PropertyKind.isSignatureLevel, PropertyKind.group, PropertyGroup.isSignatureLevel,
        PropertyKind.AllowsTargets]
  have hformat (t : String) : ¬ e.Formats t := by
    rintro ⟨hkind, -⟩
    rw [hkind] at hlevel
    cases hlevel
  have hsound : e.IsSound references :=
    ⟨hplace.symm, by simp [hlevel], by simp [hlevel], hallowed⟩
  simp only [fault?, hplace, hlevel, ne_eq, not_true_eq_false, if_false, if_true,
    ite_eq_right_iff, reduceCtorEq, imp_false, not_and, hsound, true_and]
  constructor
  · exact fun h f hf => ⟨fun _ hput heq => h hput (heq ▸ List.mem_map_of_mem hf),
      fun t ht => hformat t ht.2⟩
  · intro h hput hmem
    obtain ⟨f, hf, heq⟩ := List.mem_map.1 hmem
    exact (h f hf).single hlevel hput heq

/-- A data-object entry in its place is wrong when it lacks a target that it needs, and when one
of its targets is wrong. -/
theorem fault?_eq_none_iff_of_dataObject {e : LayoutEntry} (hplace : e.kind.group = e.container)
    (hlevel : e.kind.isSignatureLevel = false) :
    e.fault? references before = none ↔
      e.IsSound references ∧ ∀ f ∈ before, f.Compatible e := by
  have hlength : e.targets.length = 0 ↔ e.targets = [] := List.length_eq_zero_iff
  have hallowed := PropertyKind.allowsTargets_iff hlevel e.targets.length
  simp only [fault?, hplace, hlevel, ne_eq, not_true_eq_false, if_false, Bool.false_eq_true]
  by_cases hnil : e.targets = []
  · simp only [hnil, if_true, ite_eq_left_iff, reduceCtorEq, imp_false, not_not]
    rw [hnil] at hallowed
    constructor
    · intro h
      refine ⟨⟨hplace.symm, by simp [hnil], by simp [hnil], ?_⟩,
        fun f _ => ⟨by simp [hlevel], ?_⟩⟩
      · rw [hnil]
        exact hallowed.2 ⟨fun _ => h, fun hne => absurd rfl hne⟩
      · rintro t ⟨-, -, ht⟩
        simp [hnil] at ht
    · rintro ⟨hsound, -⟩
      exact (hallowed.1 (hnil ▸ hsound.allowed)).1 rfl
  · simp only [hnil, if_false, targetsFault?_eq_none_iff, ne_eq, not_false_eq_true,
      forall_const, true_and]
    constructor
    · rintro ⟨hrefs, -, hnodup, ⟨hall, hone⟩, hformats⟩
      refine ⟨⟨hplace.symm, fun _ => hrefs, fun _ => hnodup, ?_⟩,
        fun f hf => ⟨by simp [hlevel], ?_⟩⟩
      · exact hallowed.2 ⟨fun h => absurd (hlength.1 h) hnil, fun _ => ⟨hall, hone⟩⟩
      · rintro t ⟨hft, hkind, ht⟩
        exact hformats hkind f hf t ht hft
    · rintro ⟨hsound, hcompatible⟩
      obtain ⟨hall, hone⟩ := (hallowed.1 hsound.allowed).2 (mt hlength.1 hnil)
      refine ⟨hsound.resolved hlevel, by simp, hsound.distinct hlevel, ⟨hall, hone⟩, ?_⟩
      exact fun hkind f hf t ht hft => (hcompatible f hf).formats t ⟨hft, hkind, ht⟩

/-- Nothing is wrong with an entry that is right by itself and beside those before it. -/
theorem fault?_eq_none_iff {e : LayoutEntry} :
    e.fault? references before = none ↔
      e.IsSound references ∧ ∀ f ∈ before, f.Compatible e := by
  by_cases hplace : e.kind.group = e.container
  · cases hlevel : e.kind.isSignatureLevel with
    | true => exact fault?_eq_none_iff_of_signature hplace hlevel
    | false => exact fault?_eq_none_iff_of_dataObject hplace hlevel
  · have hsound : ¬ e.IsSound references := fun h => hplace h.inPlace.symm
    simp [fault?, hplace, hsound]

end LayoutEntry

/-! ## Layouts -/

namespace PropertyLayout

/-- The first thing wrong with entries, given the entries before them. -/
def faultFrom? (references : List String) (before : List LayoutEntry) :
    List LayoutEntry → Option Error
  | [] => none
  | e :: rest => (e.fault? references before).or (faultFrom? references (before ++ [e]) rest)

/-- The first thing wrong with a layout. -/
def fault? (l : PropertyLayout) : Option Error := faultFrom? l.references [] l.entries

/-- Whatever is wrong with a layout, the caller asked for an illegal structure. -/
theorem isRefusal_of_faultFrom? {references : List String} {before entries : List LayoutEntry}
    {e : Error} (h : faultFrom? references before entries = some e) : e.IsRefusal := by
  induction entries generalizing before with
  | nil => cases h
  | cons entry rest ih =>
    rcases Option.or_eq_some_iff.1 h with h | ⟨-, h⟩
    · exact LayoutEntry.isRefusal_of_fault? h
    · exact ih h

theorem faultFrom?_eq_none_iff {references : List String} {before entries : List LayoutEntry} :
    faultFrom? references before entries = none ↔
      (∀ e ∈ entries, e.IsSound references) ∧
        (∀ f ∈ before, ∀ e ∈ entries, f.Compatible e) ∧
          entries.Pairwise LayoutEntry.Compatible := by
  induction entries generalizing before with
  | nil => simp [faultFrom?]
  | cons e rest ih =>
    simp only [faultFrom?, Option.or_eq_none_iff, LayoutEntry.fault?_eq_none_iff, ih,
      List.forall_mem_append, List.forall_mem_singleton, List.forall_mem_cons,
      List.pairwise_cons]
    constructor
    · rintro ⟨⟨he, hbefore⟩, hrest, ⟨hlater, hfirst⟩, hpairwise⟩
      exact ⟨⟨he, hrest⟩, fun f hf => ⟨hbefore f hf, hlater f hf⟩, hfirst, hpairwise⟩
    · rintro ⟨⟨he, hrest⟩, hbefore, hfirst, hpairwise⟩
      exact ⟨⟨he, fun f hf => (hbefore f hf).1⟩, hrest, ⟨fun f hf => (hbefore f hf).2, hfirst⟩,
        hpairwise⟩

theorem fault?_eq_none_iff {l : PropertyLayout} :
    l.fault? = none ↔
      (∀ e ∈ l.entries, e.IsSound l.references) ∧ l.entries.Pairwise LayoutEntry.Compatible := by
  simp [fault?, faultFrom?_eq_none_iff]

end PropertyLayout

end AdvancedSignature
