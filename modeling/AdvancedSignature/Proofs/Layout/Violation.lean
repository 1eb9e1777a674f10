import AdvancedSignature.Proofs.FirstFault
import AdvancedSignature.Proofs.Layout.Replay

/-!
# The first violation

Which error a rejected layout gets.  The rules of structure come in a fixed order, and of several
violations the one that comes first in the document counts.

* `LayoutEntry.Violates references before e error` has one rule for each way in which an entry is
  at fault beside the entries before it, and `LayoutEntry.TargetViolation` one for each way in
  which a target is.  The hypotheses of a rule exclude the rules that go before it.
* The targets of an entry and the entries of a layout are both looked through with `firstFault?`,
  since the fault of one depends on those before it.
* `PropertyLayout.checkFrom_reports_first` puts these together: a check fails at exactly one entry,
  with the violation of that entry, and whatever follows it changes nothing.
-/

namespace AdvancedSignature

/-! ## Targets and entries -/

namespace LayoutEntry

variable (references : List String) (before : List LayoutEntry)

/-- What is wrong with a target of a property, given the targets before it. -/
inductive TargetViolation (kind : PropertyKind) (earlier : List String) (target : String) :
    Error → Prop
  /-- The target is no reference of the signature. -/
  | unresolved (hreference : target ∉ references) :
      TargetViolation kind earlier target (.unresolvedTarget s!"{kind.name} -> #{target}")
  /-- The property is about all data objects. -/
  | forAll (hreference : target ∈ references) (hall : kind.multiplicity = .all) :
      TargetViolation kind earlier target (.appliesToAllDataObjects kind)
  /-- The property points there already. -/
  | repeated (hreference : target ∈ references) (hsingle : kind.multiplicity ≠ .all)
      (hearlier : target ∈ earlier) :
      TargetViolation kind earlier target (.alreadyAttachedToTarget kind)
  /-- A format presents one data object. -/
  | second (hreference : target ∈ references) (hnew : target ∉ earlier)
      (hkind : kind = .dataObjectFormat) (hearlier : earlier ≠ []) :
      TargetViolation kind earlier target (.multiplicityExceeded kind .one)
  /-- Another format presents the data object. -/
  | presented (hreference : target ∈ references) (hkind : kind = .dataObjectFormat)
      (hearlier : earlier = []) (hformat : ∃ f ∈ before, f.Formats target) :
      TargetViolation kind earlier target (.duplicatePropertyKind kind)

/-- What is wrong with an entry, given the entries before it. -/
inductive Violates (e : LayoutEntry) : Error → Prop
  /-- The entry does not stand in the container of its kind. -/
  | misplaced (hplace : e.container ≠ e.kind.group) :
      Violates e (.misplacedProperty e.kind (.group e.container))
  /-- A property of the signature that may stand there once stands there again. -/
  | again (hplace : e.container = e.kind.group) (hlevel : e.kind.isSignatureLevel = true)
      (hput : e.kind.insertionPolicy = .put) (hbefore : ∃ f ∈ before, f.kind = e.kind) :
      Violates e (.duplicatePropertyKind e.kind)
  /-- A property that needs a target has none. -/
  | untargeted (hplace : e.container = e.kind.group) (hlevel : e.kind.isSignatureLevel = false)
      (hnone : e.targets = []) (hsingle : e.kind.multiplicity ≠ .all)
      (hknown : e.kind.isOther = false) :
      Violates e (.missingTarget e.kind)
  /-- The first target that is wrong decides. -/
  | target (hplace : e.container = e.kind.group) (hlevel : e.kind.isSignatureLevel = false)
      {passed : List String} {target : String} {rest : List String}
      (hsplit : e.targets = passed ++ target :: rest)
      (hpassed : ∀ earlier t later, passed = earlier ++ t :: later →
        ∀ error, ¬ TargetViolation references before e.kind earlier t error)
      {error : Error}
      (htarget : TargetViolation references before e.kind passed target error) :
      Violates e error

variable {references before} {kind : PropertyKind} {error : Error}

theorem targetsFault?_eq_firstFault? {earlier targets : List String} :
    targetsFault? references before kind earlier targets =
      firstFault? (targetFault? references before kind) earlier targets := by
  induction targets generalizing earlier with
  | nil => rfl
  | cons target rest ih => rw [targetsFault?, firstFault?, ih]

theorem targetFault?_eq_some_iff {earlier : List String} {target : String} :
    targetFault? references before kind earlier target = some error ↔
      TargetViolation references before kind earlier target error := by
  constructor
  · intro h
    unfold targetFault? at h
    split_ifs at h with href hall hmem hsecond hformat
    · cases h
      exact .forAll href hall
    · cases h
      exact .repeated href hall hmem
    · cases h
      exact .second href hmem hsecond.1 hsecond.2
    · cases h
      have hfirst : earlier = [] := not_not.1 fun hne => hsecond ⟨hformat.1, hne⟩
      exact .presented href hformat.1 hfirst hformat.2
    · cases h
      exact .unresolved href
  · intro h
    cases h with
    | unresolved href => simp [targetFault?, href]
    | forAll href hall => simp [targetFault?, href, hall]
    | repeated href hsingle hearlier => simp [targetFault?, href, hsingle, hearlier]
    | second href hnew hkind hearlier =>
      subst hkind
      simp [targetFault?, href, hnew, hearlier, PropertyKind.multiplicity,
        PropertyKind.multiplicity?]
    | presented href hkind hearlier hformat =>
      subst hkind hearlier
      simp [targetFault?, href, hformat, PropertyKind.multiplicity, PropertyKind.multiplicity?]

/-- Targets among which none is wrong. -/
theorem targetsFault?_eq_none_iff_forall {targets : List String} :
    targetsFault? references before kind [] targets = none ↔
      ∀ earlier t later, targets = earlier ++ t :: later →
        ∀ error, ¬ TargetViolation references before kind earlier t error := by
  rw [targetsFault?_eq_firstFault?, firstFault?_eq_none_iff]
  simp only [List.nil_append, Option.eq_none_iff_forall_ne_some, ne_eq, targetFault?_eq_some_iff]

theorem fault?_eq_some_iff {e : LayoutEntry} :
    e.fault? references before = some error ↔ e.Violates references before error := by
  constructor
  · intro h
    unfold fault? at h
    split_ifs at h with hplace hlevel hput hnone hfree
    · cases h
      exact .misplaced (Ne.symm hplace)
    · cases h
      obtain ⟨hput, hmem⟩ := hput
      exact .again (not_not.1 hplace).symm hlevel hput (List.mem_map.1 hmem)
    · cases h
      obtain ⟨hsingle, hother⟩ := not_or.1 hfree
      exact .untargeted (not_not.1 hplace).symm (Bool.eq_false_iff.2 hlevel) hnone hsingle
        (Bool.eq_false_iff.2 hother)
    · rw [targetsFault?_eq_firstFault?, firstFault?_eq_some_iff] at h
      obtain ⟨passed, target, rest, hsplit, hpassed, htarget⟩ := h
      rw [← targetsFault?_eq_firstFault?, targetsFault?_eq_none_iff_forall] at hpassed
      exact .target (not_not.1 hplace).symm (Bool.eq_false_iff.2 hlevel) hsplit hpassed
        (targetFault?_eq_some_iff.1 htarget)
  · intro h
    cases h with
    | misplaced hplace => simp [fault?, hplace.symm]
    | again hplace hlevel hput hbefore =>
      simp [fault?, hplace, hlevel, hput, List.mem_map.2 hbefore]
    | untargeted hplace hlevel hnone hsingle hknown =>
      simp [fault?, hplace, hlevel, hnone, hsingle, hknown]
    | @target hplace hlevel passed target rest hsplit hpassed _ htarget =>
      have hne : e.targets ≠ [] := by simp [hsplit]
      have hfirst : targetsFault? references before e.kind [] e.targets = some error := by
        rw [targetsFault?_eq_firstFault?, firstFault?_eq_some_iff]
        refine ⟨passed, target, rest, hsplit, ?_, targetFault?_eq_some_iff.2 htarget⟩
        rwa [← targetsFault?_eq_firstFault?, targetsFault?_eq_none_iff_forall]
      simp [fault?, hplace, hlevel, hne, hfirst]

/-- No entry is found to stand twice or to be absent. -/
theorem Violates.ne {e : LayoutEntry} (h : e.Violates references before error)
    (k : PropertyKind) : error ≠ .duplicateInstance k ∧ error ≠ .notPresent k := by
  cases h with
  | misplaced | again | untargeted => exact ⟨nofun, nofun⟩
  | target _ _ _ _ htarget => cases htarget <;> exact ⟨nofun, nofun⟩

end LayoutEntry

/-! ## Layouts -/

namespace PropertyLayout

variable {l : PropertyLayout} {error : Error}

/-- The layout with its first `n` entries only. -/
def cut (l : PropertyLayout) (n : Nat) : PropertyLayout := { l with entries := l.entries.take n }

/-- The layout with further entries behind its own. -/
def extend (l : PropertyLayout) (further : List LayoutEntry) : PropertyLayout :=
  { l with entries := l.entries ++ further }

theorem cut_extend {n : Nat} : (l.cut n).extend (l.entries.drop n) = l := by
  simp [cut, extend]

theorem faultFrom?_eq_firstFault? (references : List String) (before entries : List LayoutEntry) :
    faultFrom? references before entries =
      firstFault? (fun before e => e.fault? references before) before entries := by
  induction entries generalizing before with
  | nil => rfl
  | cons e rest ih => rw [faultFrom?, firstFault?, ih]

theorem fault?_eq_firstFault? :
    l.fault? = firstFault? (fun before e => e.fault? l.references before) [] l.entries :=
  faultFrom?_eq_firstFault? l.references [] l.entries

theorem checkFrom_eq_ok_iff {first : Nat} : l.checkFrom first = .ok () ↔ l.fault? = none := by
  rw [checkFrom_eq, okUnless_eq_ok_iff]
  exact and_iff_left rfl

theorem checkFrom_eq_error_iff {first : Nat} :
    l.checkFrom first = .error error ↔ l.fault? = some error := by
  rw [checkFrom_eq, okUnless_eq_error_iff]

/-- What follows a violation changes nothing. -/
theorem fault?_extend (h : l.fault? = some error) (further : List LayoutEntry) :
    (l.extend further).fault? = some error := by
  rw [fault?_eq_firstFault?] at h ⊢
  rw [extend, firstFault?_append, h, Option.some_or]

/-- A violation stands at one entry, before which there is none. -/
theorem fault?_eq_some_iff :
    l.fault? = some error ↔ ∃ i entry, l.entries[i]? = some entry ∧ (l.cut i).fault? = none ∧
      entry.Violates l.references (l.entries.take i) error := by
  simp only [fault?_eq_firstFault?, cut, ← LayoutEntry.fault?_eq_some_iff]
  rw [firstFault?_eq_some_iff]
  constructor
  · rintro ⟨passed, entry, rest, hsplit, hpassed, hentry⟩
    refine ⟨passed.length, entry, by simp [hsplit], ?_, ?_⟩
    · simpa [hsplit] using hpassed
    · simpa [hsplit] using hentry
  · rintro ⟨i, entry, hentry, hpassed, hfault⟩
    obtain ⟨hi, rfl⟩ := List.getElem?_eq_some_iff.1 hentry
    refine ⟨l.entries.take i, l.entries[i], l.entries.drop (i + 1), ?_, hpassed, hfault⟩
    rw [← List.drop_eq_getElem_cons hi, List.take_append_drop]

/-- The layout is cut to rejected beginnings from some number on. -/
theorem fault?_cut_of_le {m n : Nat} (hle : m ≤ n) (h : (l.cut m).fault? = some error) :
    (l.cut n).fault? = some error := by
  have hagain : (l.cut n).cut m = l.cut m := by simp [cut, List.take_take, hle]
  rw [← cut_extend (l := l.cut n) (n := m), hagain]
  exact fault?_extend h _

/-- **A check fails with the first violation of the layout.**  There is exactly one entry up to
which the layout is accepted and with which it is rejected; the error is what is wrong with that
entry, and entries that follow it change nothing. -/
theorem checkFrom_reports_first {first : Nat} (h : l.checkFrom first = .error error) (next : Nat) :
    (∃ i entry, l.entries[i]? = some entry ∧
      (∀ j, (l.cut j).checkFrom next = .ok () ∧
          (∃ e, (l.cut (j + 1)).checkFrom next = .error e) ↔ j = i) ∧
        (l.cut (i + 1)).checkFrom next = .error error ∧
          entry.Violates l.references (l.entries.take i) error) ∧
    (∀ further, (l.extend further).checkFrom next = .error error) ∧
    ∀ k, error ≠ .duplicateInstance k ∧ error ≠ .notPresent k := by
  simp only [checkFrom_eq_ok_iff, checkFrom_eq_error_iff] at h ⊢
  obtain ⟨i, entry, hentry, hpassed, hviolates⟩ := fault?_eq_some_iff.1 h
  have hrejected : (l.cut (i + 1)).fault? = some error := by
    have htake : (l.entries.take (i + 1)).take i = l.entries.take i := by simp [List.take_take]
    refine fault?_eq_some_iff.2 ⟨i, entry, ?_, ?_, ?_⟩
    · rwa [cut, List.getElem?_take_of_lt (Nat.lt_succ_self i)]
    · rwa [cut, cut, htake]
    · rwa [cut, htake]
  refine ⟨⟨i, entry, hentry, fun j => ⟨?_, ?_⟩, hrejected, hviolates⟩, fault?_extend h,
    fun k => hviolates.ne k⟩
  · rintro ⟨hj, e, he⟩
    rcases Nat.lt_trichotomy j i with hlt | rfl | hlt
    · rw [fault?_cut_of_le hlt he] at hpassed
      cases hpassed
    · rfl
    · rw [fault?_cut_of_le hlt hrejected] at hj
      cases hj
  · rintro rfl
    exact ⟨hpassed, error, hrejected⟩

/-- A layout with a format of two references, the second of which has its format, and with a
property in the wrong container behind it. -/
def twiceFormatted : PropertyLayout :=
  ⟨["a", "b"], [⟨.signingTime, .signedSignature, []⟩, ⟨.dataObjectFormat, .signedDataObject, ["a"]⟩,
    ⟨.dataObjectFormat, .signedDataObject, ["b", "a"]⟩, ⟨.signingTime, .unsignedSignature, []⟩]⟩

/-- The format is reported for having a second target, not for the format that the target has. -/
theorem twiceFormatted_violates :
    twiceFormatted.checkFrom 1 = .error (.multiplicityExceeded .dataObjectFormat .one) ∧
      (twiceFormatted.cut 2).checkFrom 5 = .ok () ∧
        LayoutEntry.Violates ["a", "b"] (twiceFormatted.entries.take 2)
          ⟨.dataObjectFormat, .signedDataObject, ["b", "a"]⟩
          (.multiplicityExceeded .dataObjectFormat .one) := by
  have h : twiceFormatted.checkFrom 1 = .error (.multiplicityExceeded .dataObjectFormat .one) := rfl
  obtain ⟨⟨i, entry, hentry, hi, -, hviolates⟩, -⟩ := checkFrom_reports_first h 5
  obtain rfl := (hi 2).1 ⟨rfl, _, rfl⟩
  obtain rfl := Option.some.inj hentry
  exact ⟨h, ((hi 2).2 rfl).1, hviolates⟩

end PropertyLayout

end AdvancedSignature
