import AdvancedSignature.Proofs.FirstFault
import Mathlib.Data.List.Induction
import Mathlib.Data.List.Nodup
import Mathlib.Data.List.Pairwise
import Mathlib.Order.Lattice

/-!
# Distinct keys

Lists in which no two things have one key: what is found by its key, which parts are disjoint, which
values of a partial function are distinct, and when things can be taken in one after another.  Where
a key stands twice, the fault is that of the first thing to repeat one (`IsFirstRepeat`).
-/

namespace AdvancedSignature

variable {ε α β κ : Type} [DecidableEq κ]

/-- Under distinct keys a thing is what is found by its key. -/
theorem find?_key_eq_some_iff {key : α → κ} {l : List α} (hl : (l.map key).Nodup) {k : κ} {a : α} :
    l.find? (fun b => key b == k) = some a ↔ a ∈ l ∧ key a = k := by
  constructor
  · intro h
    exact ⟨List.mem_of_find?_eq_some h, by simpa using List.find?_some h⟩
  · rintro ⟨ha, rfl⟩
    cases hfound : l.find? fun b => key b == key a with
    | none => simpa using List.find?_eq_none.1 hfound a ha
    | some b =>
      have hkey : key b = key a := by simpa using List.find?_some hfound
      rw [List.inj_on_of_nodup_map hl (List.mem_of_find?_eq_some hfound) ha hkey]

omit [DecidableEq κ] in
/-- Under distinct keys two parts of a list are disjoint when their keys are. -/
theorem disjoint_map_key_iff {key : α → κ} {l s t : List α} (hl : (l.map key).Nodup)
    (hs : s ⊆ l) (ht : t ⊆ l) : (s.map key).Disjoint (t.map key) ↔ s.Disjoint t := by
  refine ⟨fun h => h.of_map, fun h k hk hk' => ?_⟩
  obtain ⟨a, ha, rfl⟩ := List.mem_map.1 hk
  obtain ⟨b, hb, hkey⟩ := List.mem_map.1 hk'
  exact h ha (List.inj_on_of_nodup_map hl (ht hb) (hs ha) hkey ▸ hb)

/-- The values that are found are distinct when no two things have the same one. -/
theorem nodup_filterMap_iff {l : List α} (hl : l.Nodup) {f : α → Option β} :
    (l.filterMap f).Nodup ↔
      ∀ a ∈ l, ∀ b ∈ l, ∀ v, f a = some v → f b = some v → a = b := by
  rw [List.Nodup, List.pairwise_filterMap]
  constructor
  · intro hpair a ha b hb v hav hbv
    have : Std.Symm fun a b => ∀ v, f a = some v → ∀ w, f b = some w → v ≠ w :=
      ⟨fun _ _ h v hv w hw => (h w hw v hv).symm⟩
    by_contra hab
    exact hpair.forall ha hb hab v hav v hbv rfl
  · intro huniq
    refine hl.imp_of_mem fun {a b} ha hb hab v hv w hw hvw => hab ?_
    exact huniq a ha b hb v hv (hvw ▸ hw)

/-! ## Taking in things under their keys -/

section RepeatFault

variable {key : α → κ} {fault : α → ε} {l : List α}

/-- What is wrong with a thing when there is one with its key before it. -/
def repeatFault? (key : α → κ) (fault : α → ε) (before : List α) (a : α) : Option ε :=
  if key a ∈ before.map key then some (fault a) else none

theorem repeatFault?_eq_some_iff {before : List α} {a : α} {e : ε} :
    repeatFault? key fault before a = some e ↔ key a ∈ before.map key ∧ fault a = e := by
  simp [repeatFault?]

/-- Things repeat the keys that their images repeat. -/
theorem firstFault?_repeatFault?_map {key : β → κ} {fault : β → ε} (f : α → β) :
    firstFault? (repeatFault? key fault) [] (l.map f) =
      firstFault? (repeatFault? (fun a => key (f a)) fun a => fault (f a)) [] l := by
  rw [← List.map_nil (f := f), firstFault?_map]
  congr 1
  funext before a
  simp [repeatFault?]

theorem firstFault?_repeatFault?_eq_none_iff :
    firstFault? (repeatFault? key fault) [] l = none ↔ (l.map key).Nodup := by
  induction l using List.reverseRecOn with
  | nil => simp [firstFault?]
  | append_singleton l a ih =>
    rw [firstFault?_append, Option.or_eq_none_iff, ih, List.map_append, List.nodup_append]
    simp [firstFault?, repeatFault?]

/-- Taking in things one after another, unless there is one with the key, takes in all of them
when no key stands twice. -/
theorem foldlM_eq_ok_iff_nodup {step : List α → α → Except ε (List α)}
    (hstep : ∀ before a, step before a =
      okUnless (repeatFault? key fault before a) (before ++ [a])) {taken : List α} :
    l.foldlM step [] = .ok taken ↔ taken = l ∧ (l.map key).Nodup := by
  rw [foldlM_eq_okUnless hstep, okUnless_eq_ok_iff, firstFault?_repeatFault?_eq_none_iff,
    List.nil_append, and_comm, eq_comm]

/-! ### Things in an order -/

variable {π : Type} [LinearOrder π] {place : α → π}

/-- What stands before a member of an ordered list are the members that come before it. -/
theorem mem_before_iff {before after : List α} {a b : α}
    (h : (before ++ a :: after).Pairwise fun x y => place x < place y) :
    b ∈ before ↔ b ∈ before ++ a :: after ∧ place b < place a := by
  obtain ⟨-, hfrom, hbetween⟩ := List.pairwise_append.1 h
  obtain ⟨hafter, -⟩ := List.pairwise_cons.1 hfrom
  constructor
  · intro hb
    exact ⟨List.mem_append_left _ hb, hbetween b hb a List.mem_cons_self⟩
  · rintro ⟨hb, hlt⟩
    rcases List.mem_append.1 hb with hb | hb
    · exact hb
    · rcases List.mem_cons.1 hb with rfl | hb
      · exact absurd hlt (lt_irrefl _)
      · exact absurd hlt (lt_asymm (hafter b hb))

/-- The thing has the key of one that comes before it. -/
def IsRepeat (place : α → π) (key : α → κ) (l : List α) (a : α) : Prop :=
  a ∈ l ∧ ∃ b ∈ l, key b = key a ∧ place b < place a

/-- The thing is the first that has the key of one before it. -/
def IsFirstRepeat (place : α → π) (key : α → κ) (l : List α) (a : α) : Prop :=
  IsRepeat place key l a ∧ ∀ b, IsRepeat place key l b → place a ≤ place b

/-- Of things in an order the first to repeat a key is at fault. -/
theorem firstFault?_repeatFault?_eq_some_iff (hl : l.Pairwise fun x y => place x < place y)
    {e : ε} :
    firstFault? (repeatFault? key fault) [] l = some e ↔
      ∃ a, IsFirstRepeat place key l a ∧ fault a = e := by
  simp only [firstFault?_eq_some_iff, firstFault?_repeatFault?_eq_none_iff, List.nil_append,
    repeatFault?_eq_some_iff]
  constructor
  · rintro ⟨before, a, after, rfl, hnodup, hmem, rfl⟩
    obtain ⟨b, hb, hkey⟩ := List.mem_map.1 hmem
    refine ⟨a, ⟨⟨by simp, b, ?_⟩, fun c ⟨hc, b', hb', hkey', hlt'⟩ => ?_⟩, rfl⟩
    · obtain ⟨hb, hlt⟩ := (mem_before_iff hl).1 hb
      exact ⟨hb, hkey, hlt⟩
    · -- an earlier repeat and what it repeats would both stand before the fault
      by_contra hlt
      have hc := (mem_before_iff hl).2 ⟨hc, not_le.1 hlt⟩
      have hb' := (mem_before_iff hl).2 ⟨hb', lt_trans hlt' (not_le.1 hlt)⟩
      obtain rfl := List.inj_on_of_nodup_map hnodup hb' hc hkey'
      exact lt_irrefl _ hlt'
  · rintro ⟨a, ⟨⟨ha, b, hb, hkey, hlt⟩, hfirst⟩, rfl⟩
    obtain ⟨before, after, rfl⟩ := List.append_of_mem ha
    refine ⟨before, a, after, rfl, ?_, ?_, rfl⟩
    · -- of two things with one key before the first repeat the later would be a repeat
      rw [List.Nodup, List.pairwise_map]
      have hbefore := (List.pairwise_append.1 hl).1
      refine hbefore.imp_of_mem fun {x y} hx hy hxy hsame => ?_
      obtain ⟨hx, -⟩ := (mem_before_iff hl).1 hx
      obtain ⟨hy, hylt⟩ := (mem_before_iff hl).1 hy
      exact absurd (hfirst y ⟨hy, x, hx, hsame, hxy⟩) (not_le.2 hylt)
    · exact List.mem_map.2 ⟨b, (mem_before_iff hl).2 ⟨hb, hlt⟩, hkey⟩

end RepeatFault

end AdvancedSignature
