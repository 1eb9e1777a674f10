import AdvancedSignature.Layout.Check
import AdvancedSignature.Proofs.Layout.Fault
import AdvancedSignature.Proofs.Property.Bag
import AdvancedSignature.Proofs.Property.TargetSet

/-!
# The replay finds the first fault

The structure check threads containers and target sets through the entries of a layout.  What they
hold after some entries is determined by those entries (`Replay.Tracks`), so that replaying one
more entry fails exactly with its fault (`Replay.entry_eq`) and the whole check with the first
fault of the layout (`PropertyLayout.checkFrom_eq`), whatever numbers the references get.
-/

namespace AdvancedSignature

/-! ## Numbering the references -/

namespace ReferenceNumbering

/-- The numbering gives the references of the list, and only them, distinct data objects. -/
structure Numbers (numbering : ReferenceNumbering) (references : List String) : Prop where
  isSome_iff : ∀ r, (numbering r).isSome ↔ r ∈ references
  injective : ∀ {r r' id}, numbering r = some id → numbering r' = some id → r = r'

theorem mem_of_ofList {l : List (String × DataObjectId)} {r : String} {id : DataObjectId}
    (h : ofList l r = some id) : (r, id) ∈ l := by
  induction l with
  | nil => simp [ofList] at h
  | cons p rest ih =>
    obtain ⟨r', id'⟩ := p
    simp only [ofList] at h
    cases hrest : ofList rest r with
    | some found =>
      rw [hrest] at h
      exact List.mem_cons_of_mem _ (ih (hrest.trans h))
    | none =>
      simp only [hrest] at h
      split_ifs at h with hr
      cases h
      exact hr ▸ List.mem_cons_self

theorem isSome_ofList_iff {l : List (String × DataObjectId)} {r : String} :
    (ofList l r).isSome ↔ r ∈ l.map Prod.fst := by
  induction l with
  | nil => simp [ofList]
  | cons p rest ih =>
    obtain ⟨r', id'⟩ := p
    simp only [ofList]
    cases hrest : ofList rest r with
    | some found =>
      rw [hrest] at ih
      simpa using Or.inr (ih.1 rfl)
    | none =>
      rw [hrest] at ih
      have hnot : r ∉ rest.map Prod.fst := by simpa using ih
      by_cases hr : r' = r
      · simp [hr]
      · simp [hr, Ne.symm hr, hnot]

/-- References with distinct data objects are numbered by them. -/
theorem numbers_ofList {l : List (String × DataObjectId)} (hl : (l.map Prod.snd).Nodup) :
    (ofList l).Numbers (l.map Prod.fst) where
  isSome_iff _ := isSome_ofList_iff
  injective h h' := by
    have hpair := List.inj_on_of_nodup_map hl (mem_of_ofList h) (mem_of_ofList h') rfl
    exact congrArg Prod.fst hpair

/-- Numbers are drawn one after the other, so that no two references share one. -/
theorem numbers_allocate (references : List String) (first : Nat) :
    (allocate references first).Numbers references := by
  have hnodup : ((references.zipIdx first).map fun r => DataObjectId.mk r.2).Nodup := by
    rw [← Function.comp_def DataObjectId.mk Prod.snd, ← List.map_map, List.zipIdx_map_snd]
    exact List.Nodup.map (fun _ _ h => congrArg DataObjectId.sequence h) List.nodup_range'
  have hnumbers := numbers_ofList
    (l := (references.zipIdx first).map fun r => (r.1, ⟨r.2⟩)) (by rwa [List.map_map])
  rwa [List.map_map, Function.comp_def, List.zipIdx_map_fst] at hnumbers

variable {numbering : ReferenceNumbering} {references : List String}

theorem Numbers.exists_of_mem (h : numbering.Numbers references) {r : String}
    (hr : r ∈ references) : ∃ id, numbering r = some id :=
  Option.isSome_iff_exists.1 ((h.isSome_iff r).2 hr)

theorem Numbers.eq_none (h : numbering.Numbers references) {r : String} (hr : r ∉ references) :
    numbering r = none := by
  rw [← h.isSome_iff, Bool.not_eq_true, Option.isSome_eq_false_iff, Option.isNone_iff_eq_none] at hr
  exact hr

theorem Numbers.mem_filterMap_iff (h : numbering.Numbers references) {r : String}
    {id : DataObjectId} (hr : numbering r = some id) (l : List String) :
    id ∈ l.filterMap numbering ↔ r ∈ l := by
  rw [List.mem_filterMap]
  constructor
  · rintro ⟨r', hr', heq⟩
    exact h.injective heq hr ▸ hr'
  · exact fun hmem => ⟨r, hmem, hr⟩

theorem Numbers.length_filterMap (h : numbering.Numbers references) {l : List String}
    (hl : ∀ r ∈ l, r ∈ references) : (l.filterMap numbering).length = l.length :=
  List.filterMap_length_eq_length.2 fun r hr => (h.isSome_iff r).2 (hl r hr)

end ReferenceNumbering

/-! ## Bags of replayed properties -/

/-- The bag holds what those of the entries put into it that satisfy `P`, where `play` is the
property that stands for an entry. -/
structure Bag.Lists {α : Type} [HasKind α] (play : LayoutEntry × Nat → α) (P : LayoutEntry → Prop)
    (seen : List (LayoutEntry × Nat)) (b : Bag α) : Prop where
  isConsistent : b.IsConsistent
  mem_iff : ∀ p, p ∈ b.entries ↔ ∃ e ∈ seen, P e.1 ∧ p = play e
  kind_eq : ∀ e ∈ seen, P e.1 → HasKind.kind (play e) = e.1.kind

namespace Bag.Lists

variable {α : Type} [HasKind α] {play : LayoutEntry × Nat → α} {P : LayoutEntry → Prop}
  {seen : List (LayoutEntry × Nat)} {b : Bag α} {e : LayoutEntry × Nat}

theorem empty : ({} : Bag α).Lists play P [] := ⟨isConsistent_empty, by simp, by simp⟩

/-- The kinds in the bag are those of the entries. -/
theorem mem_kinds_iff (h : b.Lists play P seen) (k : PropertyKind) :
    k ∈ b.entries.map HasKind.kind ↔ ∃ f ∈ seen.map Prod.fst, P f ∧ f.kind = k := by
  simp only [List.mem_map, h.mem_iff, exists_exists_and_eq_and]
  constructor
  · rintro ⟨p, ⟨e, he, hP, rfl⟩, rfl⟩
    exact ⟨e, he, hP, (h.kind_eq e he hP).symm⟩
  · rintro ⟨e, he, hP, rfl⟩
    exact ⟨play e, ⟨e, he, hP, rfl⟩, h.kind_eq e he hP⟩

theorem not_mem (h : b.Lists play P seen) (hfresh : ∀ f ∈ seen, play f ≠ play e) :
    play e ∉ b.entries := by
  rw [h.mem_iff]
  rintro ⟨f, hf, -, heq⟩
  exact hfresh f hf heq.symm

/-- The property of an entry is refused only for its kind. -/
theorem putOrAdd_eq [DecidableEq α] (h : b.Lists play P seen)
    (hfresh : ∀ f ∈ seen, play f ≠ play e) (hkind : HasKind.kind (play e) = e.1.kind) :
    b.putOrAdd (play e) =
      okUnless (if e.1.kind.insertionPolicy = .put ∧ e.1.kind ∈ b.entries.map HasKind.kind then
        some (.duplicatePropertyKind e.1.kind) else none) (b.append (play e)) := by
  rw [h.isConsistent.putOrAdd_eq, hkind, if_neg (h.not_mem hfresh)]
  split_ifs <;> simp_all

/-- An entry that satisfies `P` goes into the bag. -/
theorem append (h : b.Lists play P seen) (hfresh : ∀ f ∈ seen, play f ≠ play e) (hP : P e.1)
    (hkind : HasKind.kind (play e) = e.1.kind) :
    (b.append (play e)).Lists play P (seen ++ [e]) where
  isConsistent := h.isConsistent.append (h.not_mem hfresh)
  mem_iff p := by
    rw [Bag.mem_append, h.mem_iff]
    constructor
    · rintro (⟨f, hf, hfP, rfl⟩ | rfl)
      · exact ⟨f, List.mem_append_left _ hf, hfP, rfl⟩
      · exact ⟨e, List.mem_append_right _ List.mem_cons_self, hP, rfl⟩
    · rintro ⟨f, hf, hfP, rfl⟩
      rcases List.mem_append.1 hf with hf | hf
      · exact Or.inl ⟨f, hf, hfP, rfl⟩
      · exact Or.inr (congrArg play (List.mem_singleton.1 hf))
  kind_eq f hf hfP := by
    rcases List.mem_append.1 hf with hf | hf
    · exact h.kind_eq f hf hfP
    · exact List.mem_singleton.1 hf ▸ hkind

/-- An entry that does not satisfy `P` leaves the bag as it is. -/
theorem skip (h : b.Lists play P seen) (hP : ¬ P e.1) : b.Lists play P (seen ++ [e]) where
  isConsistent := h.isConsistent
  mem_iff p := by
    rw [h.mem_iff]
    constructor
    · rintro ⟨f, hf, hfP, rfl⟩
      exact ⟨f, List.mem_append_left _ hf, hfP, rfl⟩
    · rintro ⟨f, hf, hfP, rfl⟩
      rcases List.mem_append.1 hf with hf | hf
      · exact ⟨f, hf, hfP, rfl⟩
      · exact absurd (List.mem_singleton.1 hf ▸ hfP) hP
  kind_eq f hf hfP := by
    rcases List.mem_append.1 hf with hf | hf
    · exact h.kind_eq f hf hfP
    · exact absurd (List.mem_singleton.1 hf ▸ hfP) hP

/-- A signature-level entry goes into the bag of its group unless there is a fault with it. -/
theorem putOrAdd_eq_fault [DecidableEq α] {g : PropertyGroup}
    (h : b.Lists play (·.kind.group = g) seen) (hfresh : ∀ f ∈ seen, play f ≠ play e)
    (hkind : HasKind.kind (play e) = e.1.kind) (hg : e.1.kind.group = g)
    (hplace : e.1.kind.group = e.1.container) (hlevel : g.isSignatureLevel = true)
    (references : List String) :
    b.putOrAdd (play e) =
      okUnless (e.1.fault? references (seen.map Prod.fst)) (b.append (play e)) := by
  have hmem : e.1.kind ∈ b.entries.map HasKind.kind ↔
      e.1.kind ∈ (seen.map Prod.fst).map LayoutEntry.kind := by
    rw [h.mem_kinds_iff, List.mem_map]
    exact ⟨fun ⟨f, hf, _, hk⟩ => ⟨f, hf, hk⟩, fun ⟨f, hf, hk⟩ => ⟨f, hf, hk ▸ hg, hk⟩⟩
  have hlevel' : e.1.kind.isSignatureLevel = true :=
    (PropertyKind.isSignatureLevel_eq hg).trans hlevel
  rw [h.putOrAdd_eq hfresh hkind]
  simp only [LayoutEntry.fault?, hplace, hlevel', hmem, ne_eq, not_true_eq_false, if_false, if_true]

end Bag.Lists

/-! ## What the containers hold -/

/-- A data-object entry that points at a reference of the data object. -/
def LayoutEntry.PointsAt (e : LayoutEntry) (numbering : ReferenceNumbering) (id : DataObjectId) :
    Prop :=
  e.kind.isSignatureLevel = false ∧ id ∈ e.targets.filterMap numbering

/-- The property that the replay makes of an entry. -/
def FoundProperty.ofEntry (e : LayoutEntry × Nat) : FoundProperty := ⟨e.2, e.1.kind⟩

namespace Replay

/-- The containers hold what the entries seen so far put into them. -/
structure Tracks (numbering : ReferenceNumbering) (seen : List (LayoutEntry × Nat)) (r : Replay) :
    Prop where
  signedSignature : r.signedSignature.Lists .ofEntry (·.kind.group = .signedSignature) seen
  unsignedSignature : r.unsignedSignature.Lists .ofEntry (·.kind.group = .unsignedSignature) seen
  ofObject : ∀ id, (r.ofObject id).Lists .ofEntry (·.PointsAt numbering id) seen

/-- The replay with the property also in the bags of some data objects. -/
def pointed (r : Replay) (found : FoundProperty) (ids : List DataObjectId) : Replay :=
  { r with ofObject := fun id => if id ∈ ids then (r.ofObject id).append found else r.ofObject id }

/-- The replay after an entry. -/
def after (numbering : ReferenceNumbering) (r : Replay) (e : LayoutEntry × Nat) : Replay :=
  match e.1.kind.group with
  | .signedSignature => { r with signedSignature := r.signedSignature.append (.ofEntry e) }
  | .unsignedSignature => { r with unsignedSignature := r.unsignedSignature.append (.ofEntry e) }
  | .signedDataObject | .unsignedDataObject =>
      r.pointed (.ofEntry e) (e.1.targets.filterMap numbering)

variable {numbering : ReferenceNumbering} {references : List String}
  {seen : List (LayoutEntry × Nat)} {r : Replay} {e : LayoutEntry × Nat}

theorem tracks_empty : Tracks numbering [] {} := ⟨.empty, .empty, fun _ => .empty⟩

theorem pointed_nil (r : Replay) (found : FoundProperty) : r.pointed found [] = r := by
  simp [pointed]

/-- Positions tell the properties of a replay apart. -/
theorem ofEntry_ne (hpos : ∀ f ∈ seen, f.2 ≠ e.2) :
    ∀ f ∈ seen, FoundProperty.ofEntry f ≠ .ofEntry e := by
  intro f hf heq
  exact hpos f hf (congrArg FoundProperty.position heq)

/-- After an entry the containers hold what it put into them as well. -/
theorem Tracks.after (hr : r.Tracks numbering seen) (hpos : ∀ f ∈ seen, f.2 ≠ e.2) :
    (r.after numbering e).Tracks numbering (seen ++ [e]) := by
  have hfresh := ofEntry_ne hpos
  -- an entry of a signature-level group points at no data object
  have hlevel {g : PropertyGroup} (hg : e.1.kind.group = g) (hlevel : g.isSignatureLevel = true)
      (id : DataObjectId) : ¬ e.1.PointsAt numbering id := by
    rintro ⟨hfalse, -⟩
    rw [PropertyKind.isSignatureLevel_eq hg, hlevel] at hfalse
    cases hfalse
  cases hg : e.1.kind.group with
  | signedSignature =>
    simp only [Replay.after, hg]
    refine ⟨hr.signedSignature.append hfresh hg rfl, hr.unsignedSignature.skip (by simp [hg]), ?_⟩
    exact fun id => (hr.ofObject id).skip (hlevel hg rfl id)
  | unsignedSignature =>
    simp only [Replay.after, hg]
    refine ⟨hr.signedSignature.skip (by simp [hg]), hr.unsignedSignature.append hfresh hg rfl, ?_⟩
    exact fun id => (hr.ofObject id).skip (hlevel hg rfl id)
  | signedDataObject | unsignedDataObject =>
    simp only [Replay.after, hg]
    refine ⟨hr.signedSignature.skip (by simp [hg]), hr.unsignedSignature.skip (by simp [hg]),
      fun id => ?_⟩
    have hdata : e.1.kind.isSignatureLevel = false := PropertyKind.isSignatureLevel_eq hg
    by_cases hmem : id ∈ e.1.targets.filterMap numbering
    · simp only [pointed, hmem, if_true]
      exact (hr.ofObject id).append hfresh ⟨hdata, hmem⟩ rfl
    · simp only [pointed, hmem, if_false]
      exact (hr.ofObject id).skip fun h => hmem h.2

/-! ## Targets -/

/-- The target set of a property that points at these references. -/
def targetSetOf (numbering : ReferenceNumbering) (kind : PropertyKind) (references : List String) :
    TargetSet :=
  ⟨kind, kind.multiplicity, references.filterMap numbering⟩

/-- Of the entries seen, those that put a format into the bag of a data object are the formats of
its reference. -/
theorem Tracks.format_mem_kinds_iff (hn : numbering.Numbers references)
    (hr : r.Tracks numbering seen) {target : String} {id : DataObjectId}
    (hid : numbering target = some id) :
    PropertyKind.dataObjectFormat ∈ (r.ofObject id).entries.map HasKind.kind ↔
      ∃ f ∈ seen.map Prod.fst, f.Formats target := by
  rw [(hr.ofObject id).mem_kinds_iff]
  constructor
  · rintro ⟨f, hf, ⟨-, hpoints⟩, hkind⟩
    exact ⟨f, hf, hkind, (hn.mem_filterMap_iff hid _).1 hpoints⟩
  · rintro ⟨f, hf, hkind, ht⟩
    exact ⟨f, hf, ⟨by rw [hkind]; rfl, (hn.mem_filterMap_iff hid _).2 ht⟩, hkind⟩

/-- Recording the data object of one more reference is refused for the multiplicity or for being
a repetition. -/
theorem attach_targetSetOf (hn : numbering.Numbers references) {kind : PropertyKind}
    {earlier : List String} (hrefs : ∀ t ∈ earlier, t ∈ references)
    (hone : kind = .dataObjectFormat → earlier.length ≤ 1) {target : String} {id : DataObjectId}
    (hid : numbering target = some id) :
    (targetSetOf numbering kind earlier).attach id =
      okUnless (LayoutEntry.attachFault? kind earlier target)
        (targetSetOf numbering kind (earlier ++ [target])) := by
  have hmem := hn.mem_filterMap_iff hid earlier
  have hlength := hn.length_filterMap hrefs
  have hcap (hall : kind.multiplicity ≠ .all) :
      kind.multiplicity.cap = some earlier.length ↔ kind = .dataObjectFormat ∧ earlier ≠ [] := by
    rw [← PropertyKind.multiplicity_eq_one_iff]
    cases hm : kind.multiplicity with
    | all => exact absurd hm hall
    | one =>
      have hle := hone (PropertyKind.multiplicity_eq_one_iff.1 hm)
      have hnil : earlier = [] ↔ earlier.length = 0 := List.length_eq_zero_iff.symm
      simp only [Multiplicity.cap, Option.some.injEq, true_and, ne_eq, hnil]
      omega
    | many => simp [Multiplicity.cap]
  unfold TargetSet.attach TargetSet.isAttachedTo targetSetOf LayoutEntry.attachFault?
  simp only [List.contains_iff_mem, hmem, hlength]
  by_cases hall : kind.multiplicity = .all
  · simp [hall]
  · have hfull : kind.multiplicity = .one ∨ ¬ (kind = .dataObjectFormat ∧ earlier ≠ []) := by
      rw [PropertyKind.multiplicity_eq_one_iff]
      tauto
    simp only [hall, if_false, hcap hall]
    split_ifs with hrepeated hexceeded
    · rfl
    · rw [hfull.resolve_right (not_not_intro hexceeded)]
      rfl
    · simp [hid]

/-- The bag of a data object takes in the property unless it is a second format. -/
theorem putOrAdd_pointed (hn : numbering.Numbers references) (hr : r.Tracks numbering seen)
    (hpos : ∀ f ∈ seen, f.2 ≠ e.2) (hlevel : e.1.kind.isSignatureLevel = false)
    {earlier : List String} {target : String} {id : DataObjectId}
    (hid : numbering target = some id) (hnew : target ∉ earlier) :
    ((r.pointed (.ofEntry e) (earlier.filterMap numbering)).ofObject id).putOrAdd (.ofEntry e) =
      okUnless (LayoutEntry.formatFault? (seen.map Prod.fst) e.1.kind target)
        ((r.ofObject id).append (.ofEntry e)) := by
  have hmem : id ∉ earlier.filterMap numbering := mt (hn.mem_filterMap_iff hid earlier).1 hnew
  simp only [pointed, hmem, if_false]
  rw [(hr.ofObject id).putOrAdd_eq (ofEntry_ne hpos) rfl]
  simp only [PropertyKind.insertionPolicy_eq_put_iff hlevel, LayoutEntry.formatFault?]
  by_cases hkind : e.1.kind = .dataObjectFormat
  · simp only [hkind, true_and, hr.format_mem_kinds_iff hn hid]
  · simp [hkind]

/-- Pointing at one more reference fails with the fault of the target. -/
theorem pointAt_eq (hn : numbering.Numbers references) (hr : r.Tracks numbering seen)
    (hpos : ∀ f ∈ seen, f.2 ≠ e.2) (hlevel : e.1.kind.isSignatureLevel = false)
    {earlier : List String} (hrefs : ∀ t ∈ earlier, t ∈ references)
    (hone : e.1.kind = .dataObjectFormat → earlier.length ≤ 1) (target : String) :
    pointAt numbering (.ofEntry e)
        (targetSetOf numbering e.1.kind earlier,
          r.pointed (.ofEntry e) (earlier.filterMap numbering)) target =
      okUnless
        (LayoutEntry.targetFault? references (seen.map Prod.fst) e.1.kind earlier target)
        (targetSetOf numbering e.1.kind (earlier ++ [target]),
          r.pointed (.ofEntry e) ((earlier ++ [target]).filterMap numbering)) := by
  by_cases href : target ∈ references
  · obtain ⟨id, hid⟩ := hn.exists_of_mem href
    -- first what the target set says, then what the bag says
    simp only [pointAt, hid, attach_targetSetOf hn hrefs hone hid,
      LayoutEntry.targetFault?_of_mem href]
    refine okUnless_bind _ _ _ _ fun hnone => ?_
    have hrepeated : target ∉ earlier := (LayoutEntry.attachFault?_eq_none_iff.1 hnone).2.1
    have hnext : (r.pointed (.ofEntry e) (earlier.filterMap numbering)).setObject id
        ((r.ofObject id).append (.ofEntry e)) =
          r.pointed (.ofEntry e) ((earlier ++ [target]).filterMap numbering) := by
      simp only [pointed, setObject, List.filterMap_append, List.mem_append]
      congr 1
      funext other
      by_cases hother : other = id
      · simp [hother, hid]
      · simp [hother, hid]
    rw [putOrAdd_pointed hn hr hpos hlevel hid hrepeated, ← hnext]
    cases LayoutEntry.formatFault? (seen.map Prod.fst) e.1.kind target <;> rfl
  · simp [pointAt, hn.eq_none href, LayoutEntry.targetFault?, href, FoundProperty.ofEntry]

/-- Pointing at references fails with the first fault among the targets. -/
theorem foldlM_pointAt (hn : numbering.Numbers references) (hr : r.Tracks numbering seen)
    (hpos : ∀ f ∈ seen, f.2 ≠ e.2) (hlevel : e.1.kind.isSignatureLevel = false)
    (earlier : List String) (hrefs : ∀ t ∈ earlier, t ∈ references)
    (hone : e.1.kind = .dataObjectFormat → earlier.length ≤ 1) (targets : List String) :
    targets.foldlM (pointAt numbering (.ofEntry e))
        (targetSetOf numbering e.1.kind earlier,
          r.pointed (.ofEntry e) (earlier.filterMap numbering)) =
      okUnless
        (LayoutEntry.targetsFault? references (seen.map Prod.fst) e.1.kind earlier targets)
        (targetSetOf numbering e.1.kind (earlier ++ targets),
          r.pointed (.ofEntry e) ((earlier ++ targets).filterMap numbering)) := by
  -- what has been handled moves over to `earlier`, target by target
  induction targets generalizing earlier with
  | nil => simp [LayoutEntry.targetsFault?, pure, Except.pure]
  | cons target rest ih =>
    rw [List.foldlM_cons, pointAt_eq hn hr hpos hlevel hrefs hone]
    refine okUnless_bind _ _ _ _ fun hnone => ?_
    obtain ⟨href, -, -, hformat⟩ := LayoutEntry.targetFault?_eq_none_iff.1 hnone
    rw [ih, List.append_assoc, List.singleton_append]
    · exact List.forall_mem_append.2 ⟨hrefs, List.forall_mem_singleton.2 href⟩
    · intro hkind
      simp [(hformat hkind).1]

/-- Replaying a data-object entry fails with its fault. -/
theorem dataObjectEntry_eq (hn : numbering.Numbers references) (hr : r.Tracks numbering seen)
    (hpos : ∀ f ∈ seen, f.2 ≠ e.2) (hlevel : e.1.kind.isSignatureLevel = false)
    (hplace : e.1.kind.group = e.1.container) :
    dataObjectEntry numbering r e.1 e.2 =
      okUnless (e.1.fault? references (seen.map Prod.fst))
        (r.pointed (.ofEntry e) (e.1.targets.filterMap numbering)) := by
  have hloop := foldlM_pointAt hn hr hpos hlevel [] (by simp) (by simp) e.1.targets
  rw [List.filterMap_nil, pointed_nil, List.nil_append] at hloop
  have hfault : e.1.fault? references (seen.map Prod.fst) =
      (LayoutEntry.targetsFault? references (seen.map Prod.fst) e.1.kind [] e.1.targets).or
        (if e.1.targets = [] ∧ e.1.kind.multiplicity ≠ .all ∧ ¬ e.1.kind.isOther then
          some (.missingTarget e.1.kind) else none) := by
    simp only [LayoutEntry.fault?, hplace, hlevel, ne_eq, not_true_eq_false, if_false,
      Bool.false_eq_true]
    by_cases hnil : e.1.targets = []
    · simp only [hnil, LayoutEntry.targetsFault?, if_true, true_and, Option.none_or]
      split_ifs <;> tauto
    · simp [hnil]
  rw [hfault]
  change (e.1.targets.foldlM (pointAt numbering (.ofEntry e))
    (targetSetOf numbering e.1.kind [], r) >>= _) = _
  rw [hloop]
  refine okUnless_bind _ _ _ _ fun _ => ?_
  simp only [List.isEmpty_iff]
  split_ifs <;> rfl

/-- Replaying an entry fails with its fault. -/
theorem entry_eq (hn : numbering.Numbers references) (hr : r.Tracks numbering seen)
    (hpos : ∀ f ∈ seen, f.2 ≠ e.2) :
    entry numbering r e =
      okUnless (e.1.fault? references (seen.map Prod.fst)) (r.after numbering e) := by
  have hfresh := ofEntry_ne hpos
  by_cases hplace : e.1.kind.group = e.1.container
  · cases hg : e.1.kind.group with
    | signedSignature =>
      have hc := hplace.symm.trans hg
      have hput := hr.signedSignature.putOrAdd_eq_fault hfresh rfl hg hplace rfl references
      simp only [entry, after, hplace, hc, ne_eq, not_true_eq_false, if_false]
      rw [show (⟨e.2, e.1.kind⟩ : FoundProperty) = .ofEntry e from rfl, hput]
      cases e.1.fault? references (seen.map Prod.fst) <;> rfl
    | unsignedSignature =>
      have hc := hplace.symm.trans hg
      have hput := hr.unsignedSignature.putOrAdd_eq_fault hfresh rfl hg hplace rfl references
      simp only [entry, after, hplace, hc, ne_eq, not_true_eq_false, if_false]
      rw [show (⟨e.2, e.1.kind⟩ : FoundProperty) = .ofEntry e from rfl, hput]
      cases e.1.fault? references (seen.map Prod.fst) <;> rfl
    | signedDataObject | unsignedDataObject =>
      have hlevel : e.1.kind.isSignatureLevel = false := PropertyKind.isSignatureLevel_eq hg
      have hc := hplace.symm.trans hg
      simp only [entry, after, hplace, hc, ne_eq, not_true_eq_false, if_false]
      exact dataObjectEntry_eq hn hr hpos hlevel hplace
  · simp [entry, LayoutEntry.fault?, hplace]

/-- Replaying entries fails with the first fault among them, and else the containers hold what the
entries put into them. -/
theorem foldlM_entry (hn : numbering.Numbers references) (hr : r.Tracks numbering seen) {n : Nat}
    (hpos : ∀ f ∈ seen, f.2 < n) (entries : List LayoutEntry) :
    ∃ r', r'.Tracks numbering (seen ++ entries.zipIdx n) ∧
      (entries.zipIdx n).foldlM (entry numbering) r =
        okUnless (PropertyLayout.faultFrom? references (seen.map Prod.fst) entries) r' := by
  induction entries generalizing seen r n with
  | nil => exact ⟨r, by rwa [List.zipIdx_nil, List.append_nil], rfl⟩
  | cons e rest ih =>
    have hne : ∀ f ∈ seen, f.2 ≠ (e, n).2 := fun f hf => Nat.ne_of_lt (hpos f hf)
    have hnext : ∀ f ∈ seen ++ [(e, n)], f.2 < n + 1 := by
      refine List.forall_mem_append.2 ⟨fun f hf => ?_, List.forall_mem_singleton.2 ?_⟩
      · exact Nat.lt_succ_of_lt (hpos f hf)
      · exact Nat.lt_succ_self n
    obtain ⟨r', hr', hrest⟩ := ih (hr.after hne) hnext
    rw [List.map_append, List.map_singleton] at hrest
    rw [List.append_assoc, List.singleton_append] at hr'
    refine ⟨r', hr', ?_⟩
    rw [List.zipIdx_cons, List.foldlM_cons, entry_eq hn hr hne, PropertyLayout.faultFrom?]
    exact okUnless_bind _ _ _ _ fun _ => hrest

end Replay

namespace PropertyLayout

/-- **The check fails with the first fault of the layout**, whatever data objects the references
get. -/
theorem checkUnder_eq {numbering : ReferenceNumbering} {l : PropertyLayout}
    (h : numbering.Numbers l.references) : l.checkUnder numbering = okUnless l.fault? () := by
  obtain ⟨r, -, hr⟩ := Replay.foldlM_entry h Replay.tracks_empty (by simp) l.entries
  rw [checkUnder, hr, List.map_nil, fault?]
  cases faultFrom? l.references [] l.entries <;> rfl

theorem checkFrom_eq (first : Nat) (l : PropertyLayout) :
    l.checkFrom first = okUnless l.fault? () :=
  checkUnder_eq (ReferenceNumbering.numbers_allocate l.references first)

theorem isRefusal_of_checkFrom {first : Nat} {l : PropertyLayout} {e : Error}
    (h : l.checkFrom first = .error e) : e.IsRefusal := by
  rw [checkFrom_eq, okUnless_eq_error_iff] at h
  exact isRefusal_of_faultFrom? h

end PropertyLayout

end AdvancedSignature
