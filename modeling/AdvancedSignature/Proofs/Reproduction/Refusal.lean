import AdvancedSignature.Proofs.Layout.Violation
import AdvancedSignature.Proofs.Reproduction.Acceptance

/-!
# Where production is refused

A layout that the check rejects cannot be produced either, but an application may get another
error.  The check records a target before the data object takes in the property, and a declaration
the other way round, so that of two faults of one target each reports its own first.

* `PropertyLayout.FailsAt`: the target at which the replay of a layout fails.
* `LayoutEntry.declareFault?_eq`: what a declaration finds wrong with such a target.
* `PropertyLayout.FailsAt.perform_declare`: the declaration that the application has reached when
  the check fails is refused as well, with an error of the same cause unless the target is repeated
  or is the second one of a format where there is a format already.
-/

namespace AdvancedSignature

namespace LayoutEntry

variable {references : List String} {before : List LayoutEntry} {kind : PropertyKind}
  {earlier : List String} {target : String} {error : Error}

/-- The bag of the data object decides when it finds something, and else the fault of the target is
reported. -/
theorem declareFault?_eq (h : target ∈ references)
    (hfault : targetFault? references before kind earlier target = some error) :
    declareFault? before kind earlier target =
      some ((bagFault? before kind earlier target).getD error) := by
  rw [targetFault?_of_mem h] at hfault
  cases hbag : bagFault? before kind earlier target with
  | some fault => rw [declareFault?, hbag, Option.some_or, Option.getD_some]
  | none =>
    have hformat : formatFault? before kind target = none := by
      unfold formatFault?
      refine if_neg fun hformats => ?_
      simp [bagFault?, hformats.1, hformats.2] at hbag
    rw [hformat, Option.or_none] at hfault
    rw [declareFault?, hbag, Option.none_or, hfault, Option.getD_none]

/-- The two errors have one cause unless the bag and the target set both find something. -/
theorem cause_getD_bagFault?_iff (hknown : target ∈ references)
    (hpassed : targetsFault? references before kind [] earlier = none)
    (hfault : targetFault? references before kind earlier target = some error) :
    ((bagFault? before kind earlier target).getD error).cause = error.cause ↔
      ¬ (target ∈ earlier ∨
        kind = .dataObjectFormat ∧ earlier ≠ [] ∧ ∃ f ∈ before, f.Formats target) := by
  have hbag (hnot : target ∉ earlier) :
      bagFault? before kind earlier target = formatFault? before kind target := by
    by_cases hkind : kind = .dataObjectFormat <;> simp [bagFault?, formatFault?, hkind, hnot]
  cases targetFault?_eq_some_iff.1 hfault with
  | unresolved hreference => exact absurd hknown hreference
  | forAll _ hall =>
    -- a property for all data objects has no target before this one
    have hfirst : earlier = [] := by
      by_contra hne
      exact ((targetsFault?_eq_none_iff.1 hpassed).2.2.2.1 hne).1 hall
    have hkind : kind ≠ .dataObjectFormat := by
      rintro rfl
      cases hall
    simp [bagFault?, hfirst, hkind]
  | repeated _ _ hearlier =>
    by_cases hkind : kind = .dataObjectFormat <;> simp [bagFault?, hkind, hearlier, Error.cause]
  | second _ hnew hkind hearlier =>
    rw [hbag hnew, formatFault?]
    by_cases hformat : ∃ f ∈ before, f.Formats target
    · rw [if_pos ⟨hkind, hformat⟩]
      exact iff_of_false (by simp [Error.cause]) fun h => h (Or.inr ⟨hkind, hearlier, hformat⟩)
    · rw [if_neg fun h => hformat h.2]
      simp [hnew, hformat]
  | presented _ hkind hearlier hformat =>
    have hnew : target ∉ earlier := by simp [hearlier]
    rw [hbag hnew, formatFault?, if_pos ⟨hkind, hformat⟩]
    simp [hearlier]

end LayoutEntry

namespace PropertyLayout

/-- The replay fails at a target of a data-object entry: it gets past the entries before this one
and past the targets before this one, and pointing at the target is an error. -/
structure FailsAt (l : PropertyLayout) (number : Nat) (before : List LayoutEntry) (e : LayoutEntry)
    (passed : List String) (target : String) (error : Error) : Prop where
  entries : ∃ after, l.entries = before ++ e :: after
  targets : ∃ rest, e.targets = passed ++ target :: rest
  isDataObject : e.kind.isSignatureLevel = false
  fails : ∃ r state,
    before.zipIdx.foldlM (Replay.entry (.allocate l.references number)) {} = .ok r ∧
      passed.foldlM (Replay.pointAt (.allocate l.references number) ⟨before.length, e.kind⟩)
        (⟨e.kind, e.kind.multiplicity, []⟩, r) = .ok state ∧
      Replay.pointAt (.allocate l.references number) ⟨before.length, e.kind⟩ state target =
        .error error

namespace FailsAt

variable {l : PropertyLayout} {number : Nat} {before : List LayoutEntry} {e : LayoutEntry}
  {passed : List String} {target : String} {error : Error}

/-- Nothing is wrong with what comes before the target, and the error is what is wrong with it. -/
theorem faults (h : l.FailsAt number before e passed target error) :
    faultFrom? l.references [] before = none ∧
      LayoutEntry.targetsFault? l.references before e.kind [] passed = none ∧
        LayoutEntry.targetFault? l.references before e.kind passed target = some error := by
  obtain ⟨r, state, hr, hstate, herror⟩ := h.fails
  have hn := ReferenceNumbering.numbers_allocate l.references number
  obtain ⟨r', htracks, hreplay⟩ := Replay.foldlM_entry hn Replay.tracks_empty (by simp) before
  obtain ⟨hbefore, rfl⟩ := okUnless_eq_ok_iff.1 (hreplay.symm.trans hr)
  have hseen : ([] ++ before.zipIdx).map Prod.fst = before := by simp
  have hpos : ∀ f ∈ [] ++ before.zipIdx, f.2 ≠ (e, before.length).2 := fun f hf =>
    Nat.ne_of_lt (by simpa using (List.mem_zipIdx hf).2.1)
  have hloop := Replay.foldlM_pointAt hn htracks hpos h.isDataObject [] (by simp) (by simp) passed
  rw [List.filterMap_nil, Replay.pointed_nil, hseen, List.nil_append] at hloop
  obtain ⟨hpassed, rfl⟩ := okUnless_eq_ok_iff.1 (hloop.symm.trans hstate)
  obtain ⟨hrefs, -, -, hone, -⟩ := LayoutEntry.targetsFault?_eq_none_iff.1 hpassed
  have hlength : e.kind = .dataObjectFormat → passed.length ≤ 1 := by
    intro hkind
    by_cases hnil : passed = []
    · simp [hnil]
    · exact Nat.le_of_eq ((hone hnil).2 hkind).2
  have hstep := Replay.pointAt_eq hn htracks hpos h.isDataObject hrefs hlength target
  rw [hseen] at hstep
  exact ⟨hbefore, hpassed, okUnless_eq_error_iff.1 (hstep.symm.trans herror)⟩

/-- The error is that of the whole check. -/
theorem checkFrom_eq_error (h : l.FailsAt number before e passed target error)
    (hplace : e.container = e.kind.group) : l.checkFrom number = .error error := by
  obtain ⟨hbefore, hpassed, hfault⟩ := h.faults
  obtain ⟨after, hentries⟩ := h.entries
  obtain ⟨rest, htargets⟩ := h.targets
  have hentry : e.fault? l.references before = some error :=
    LayoutEntry.fault?_eq_some_iff.2 (.target hplace h.isDataObject htargets
      (LayoutEntry.targetsFault?_eq_none_iff_forall.1 hpassed)
      (LayoutEntry.targetFault?_eq_some_iff.1 hfault))
  rw [checkFrom_eq_error_iff, fault?_eq_firstFault?, firstFault?_eq_some_iff]
  exact ⟨before, e, after, hentries, (faultFrom?_eq_firstFault? _ _ _).symm.trans hbefore, hentry⟩

/-- The properties of the entries up to this one are of their kinds, and this one points at data
objects. -/
theorem plays (h : l.FailsAt number before e passed target error) {cast : Cast}
    (hcast : cast.Fits l) :
    (∀ f ∈ before.zipIdx, cast.Plays f) ∧
      (cast.dataObject before.length).kind = e.kind ∧
        (cast.dataObject before.length).multiplicity = e.kind.multiplicity := by
  obtain ⟨after, hentries⟩ := h.entries
  obtain ⟨rest, htargets⟩ := h.targets
  have hsplit : l.entries.zipIdx =
      before.zipIdx ++ (e, before.length) :: after.zipIdx (before.length + 1) := by
    rw [hentries, List.zipIdx_append, List.zipIdx_cons, Nat.zero_add]
  have hplays := hcast.plays
  rw [hsplit, List.forall_mem_append, List.forall_mem_cons] at hplays
  obtain ⟨hbefore, hentry, -⟩ := hplays
  refine ⟨hbefore, hentry.dataObject h.isDataObject, ?_⟩
  simpa [htargets] using hentry.multiplicity h.isDataObject

/-- An application is not refused before it gets to the target. -/
theorem reaches (hreferences : l.references.Nodup)
    (hplace : ∀ f ∈ l.entries, f.container = f.kind.group) {cast : Cast} (hcast : cast.Fits l)
    (uri : String → String) (first : Nat) (h : l.FailsAt number before e passed target error) :
    ∃ r s,
      before.zipIdx.foldlM (Reproduction.entry cast) (.start uri first l.references) = .ok r ∧
      passed.foldlM (Declarations.pointTo (cast.dataObject before.length)) r.declarations =
        .ok s ∧
      s.Reproduces (Reproduction.numbered l.references first) cast
        (before.zipIdx ++ [(e.upTo passed, before.length)]) ∧
      s.table.Records (Reproduction.numbered l.references first) (cast.dataObject before.length)
        passed := by
  obtain ⟨hbefore, hpassed, -⟩ := h.faults
  obtain ⟨hplays, hkind, hmultiplicity⟩ := h.plays hcast
  have hplaceBefore : ∀ f ∈ before, f.kind.group = f.container := by
    obtain ⟨after, hentries⟩ := h.entries
    exact fun f hf => (hplace f (hentries ▸ List.mem_append_left _ hf)).symm
  have hfst := Reproduction.fst_numbered l.references first
  have hnodup : ((Reproduction.numbered l.references first).map Prod.fst).Nodup := by rwa [hfst]
  -- the entries before this one
  have hentries := (Reproduction.tracks_start cast uri first l.references).follows_foldlM hcast
    hnodup (by simp) hplays hplaceBefore
  rw [hfst, List.map_nil, hbefore] at hentries
  obtain ⟨r, hr, htracks⟩ := hentries
  rw [List.nil_append] at htracks
  -- the targets before this one
  have hfresh : ∀ f ∈ before.zipIdx, f.2 ≠ before.length := fun f hf =>
    Nat.ne_of_lt (by simpa using (List.mem_zipIdx hf).2.1)
  have hstart : r.declarations.Reproduces (Reproduction.numbered l.references first) cast
      (before.zipIdx ++ [(e.upTo [], before.length)]) :=
    htracks.declarations.skip fun t hformats => by
      simp [LayoutEntry.Formats, LayoutEntry.upTo] at hformats
  have htargets := Declarations.Reproduces.follows_foldlM hnodup hcast.dataObject hkind
    hmultiplicity h.isDataObject passed hstart
    (TargetTable.records_nil _ (htracks.declarations.fresh _ hfresh))
  rw [hfst, List.zipIdx_map_fst, hpassed] at htargets
  obtain ⟨s, hs, hreproduces, hrecords⟩ := htargets
  exact ⟨r, s, hr, hs, hreproduces, hrecords⟩

/-- **The application is refused where the check fails, for the same cause or for what the bag of
the data object finds first.**  It gets past the entries before this one and past the targets before
this one, and the property that it offers to the data object of the target is refused without a
change.  The causes are the same unless the target stands in the entry twice, or the entry is a
format with a target before this one and the data object has a format already. -/
theorem perform_declare (hreferences : l.references.Nodup)
    (hplace : ∀ f ∈ l.entries, f.container = f.kind.group) {cast : Cast} (hcast : cast.Fits l)
    (uri : String → String) (first : Nat) (h : l.FailsAt number before e passed target error)
    (hknown : target ∈ l.references) :
    l.checkFrom number = .error error ∧
    ∃ r s d refusal,
      before.zipIdx.foldlM (Reproduction.entry cast) (.start uri first l.references) = .ok r ∧
      passed.foldlM (Declarations.pointTo (cast.dataObject before.length)) r.declarations =
        .ok s ∧
      d ∈ s.descriptions ∧ d.referenceId = target ∧
      s.perform (.declare d.id (cast.dataObject before.length)) = (.refused refusal, s) ∧
      refusal = (LayoutEntry.bagFault? before e.kind passed target).getD error ∧
      (refusal.cause = error.cause ↔
        ¬ (target ∈ passed ∨
          e.kind = .dataObjectFormat ∧ passed ≠ [] ∧ ∃ f ∈ before, f.Formats target)) := by
  obtain ⟨-, hpassed, hfault⟩ := h.faults
  obtain ⟨-, hkind, hmultiplicity⟩ := h.plays hcast
  have hcheck : l.checkFrom number = .error error := by
    obtain ⟨after, hentries⟩ := h.entries
    exact h.checkFrom_eq_error (hplace e (hentries ▸ List.mem_append_right _ List.mem_cons_self))
  obtain ⟨r, s, hr, hs, hreproduces, hrecords⟩ :=
    h.reaches hreferences hplace hcast uri first
  have hfst := Reproduction.fst_numbered l.references first
  rcases hreproduces.find?_eq target with ⟨hunknown, -⟩ | ⟨d, hd, rfl, -⟩
  · exact absurd (hfst.symm ▸ hknown) hunknown
  · have hperform := hreproduces.perform_declare_eq hkind hmultiplicity h.isDataObject hrecords hd
    rw [List.zipIdx_map_fst, LayoutEntry.declareFault?_eq hknown hfault] at hperform
    exact ⟨hcheck, r, s, d, _, hr, hs, hd, rfl, hperform, rfl,
      LayoutEntry.cause_getD_bagFault?_iff hknown hpassed hfault⟩

/-- A format of a second data object, which has a format already: the check minds the second target,
the application is told of the other format. -/
theorem perform_declare_of_two_formats :
    let l : PropertyLayout := ⟨["a", "b"], [⟨.dataObjectFormat, .signedDataObject, ["a"]⟩,
      ⟨.dataObjectFormat, .signedDataObject, ["b", "a"]⟩]⟩
    l.FailsAt 1 [⟨.dataObjectFormat, .signedDataObject, ["a"]⟩]
      ⟨.dataObjectFormat, .signedDataObject, ["b", "a"]⟩ ["b"] "a"
      (.multiplicityExceeded .dataObjectFormat .one) ∧
    l.references.Nodup ∧ (∀ f ∈ l.entries, f.container = f.kind.group) ∧
    (Cast.ofLayout l).Fits l ∧
    ∃ (s : Declarations) (d : DataObjectDescription), d ∈ s.descriptions ∧ d.referenceId = "a" ∧
      s.perform (.declare d.id ((Cast.ofLayout l).dataObject 1)) =
        (.refused (.duplicatePropertyKind .dataObjectFormat), s) := by
  intro l
  have hfails : l.FailsAt 1 [⟨.dataObjectFormat, .signedDataObject, ["a"]⟩]
      ⟨.dataObjectFormat, .signedDataObject, ["b", "a"]⟩ ["b"] "a"
      (.multiplicityExceeded .dataObjectFormat .one) :=
    ⟨⟨_, rfl⟩, ⟨_, rfl⟩, rfl, _, _, rfl, rfl, rfl⟩
  have hreferences : l.references.Nodup := by decide
  have hplace : ∀ f ∈ l.entries, f.container = f.kind.group := by decide
  have hcast := Cast.fits_ofLayout l
  obtain ⟨-, r, s, d, _, -, -, hd, hid, hperform, rfl, -⟩ :=
    perform_declare hreferences hplace hcast id 1 hfails (by decide)
  exact ⟨hfails, hreferences, hplace, hcast, s, d, hd, hid, hperform⟩

/-- A commitment that is pointed at one data object twice: the check minds the target, the
application is told of the property. -/
theorem outcomes_of_repeatedTarget :
    let commitment : DataObjectProperty := ⟨⟨0⟩, .commitment { uri := "approval" }⟩
    let l : PropertyLayout :=
      ⟨["a"], [⟨.commitmentType, .signedDataObject, ["a", "a"]⟩]⟩
    commitment.kind = .commitmentType ∧
      l.FailsAt 1 [] ⟨.commitmentType, .signedDataObject, ["a", "a"]⟩ ["a"] "a"
        (.alreadyAttachedToTarget .commitmentType) ∧
      l.checkFrom 1 = .error (.alreadyAttachedToTarget .commitmentType) ∧
      ({} : Declarations).outcomes
          [.describeAs "a" "a.txt", .declare ⟨1⟩ commitment, .declare ⟨1⟩ commitment] =
        [.accepted, .accepted, .refused (.duplicateInstance .commitmentType)] := by
  intro commitment l
  refine ⟨rfl, ⟨⟨_, rfl⟩, ⟨_, rfl⟩, rfl, _, _, rfl, rfl, rfl⟩, rfl, ?_⟩
  decide +kernel

end FailsAt

end PropertyLayout

end AdvancedSignature
