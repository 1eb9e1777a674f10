import AdvancedSignature.Error
import Mathlib.Data.List.Basic
import Mathlib.Data.List.Forall2

/-!
# Results that may be errors

What a composed computation in `Except` says about its parts: in a list of computations all succeed,
or the first to fail gives the error (`FailsFirst`).  Then `okUnless`, the result of a
computation that fails with a known error or else has a known value; where only the success is
known and not the error, `Follows` takes its place.  `Error.IsRefusal` marks the errors with which a
declaration is refused.
-/

namespace AdvancedSignature

/-- The caller asked for an illegal structure, other than for the removal of something absent. -/
def Error.IsRefusal (e : Error) : Prop := e.isStructural = true ∧ ∀ k, e ≠ .notPresent k

variable {ε α β γ : Type}

@[simp] theorem ok_bind (a : α) (f : α → Except ε β) : (Except.ok a >>= f) = f a := rfl

@[simp] theorem error_bind (e : ε) (f : α → Except ε β) : (Except.error e >>= f) = .error e := rfl

theorem bind_eq_ok_iff {x : Except ε α} {f : α → Except ε β} {b : β} :
    (x >>= f) = .ok b ↔ ∃ a, x = .ok a ∧ f a = .ok b := by
  cases x with
  | error e => simp
  | ok a => simp

theorem bind_eq_error_iff {x : Except ε α} {f : α → Except ε β} {e : ε} :
    (x >>= f) = .error e ↔ x = .error e ∨ ∃ a, x = .ok a ∧ f a = .error e := by
  cases x with
  | error e' => simp
  | ok a => simp

theorem map_eq_ok_iff {x : Except ε α} {f : α → β} {b : β} :
    x.map f = .ok b ↔ ∃ a, x = .ok a ∧ f a = b := by
  cases x <;> simp [Except.map]

theorem map_eq_error_iff {x : Except ε α} {f : α → β} {e : ε} :
    x.map f = .error e ↔ x = .error e := by
  cases x <;> simp [Except.map]

theorem map_bind (x : Except ε α) (f : α → Except ε β) (g : β → γ) :
    (x >>= f).map g = x >>= fun a => (f a).map g := by
  cases x <;> rfl

/-- Where only `v` of a value counts, computations that agree in it may be exchanged. -/
theorem bind_eq_bind_of_map_eq {x y : Except ε α} {v : α → γ} (h : x.map v = y.map v)
    (k : γ → Except ε β) : (x >>= fun a => k (v a)) = y >>= fun a => k (v a) := by
  have hmap (z : Except ε α) : (z >>= fun a => k (v a)) = z.map v >>= k := by
    cases z <;> rfl
  rw [hmap x, hmap y, h]

/-! ## Lists of computations -/

/-- A list of computations with known values has the list of these values. -/
theorem mapM_eq_ok_map {f : α → Except ε β} {g : α → β} {l : List α}
    (h : ∀ a ∈ l, f a = .ok (g a)) : l.mapM f = .ok (l.map g) := by
  induction l with
  | nil => rfl
  | cons a rest ih =>
    rw [List.mapM_cons, h a List.mem_cons_self, ih fun b hb => h b (List.mem_cons_of_mem a hb)]
    rfl

theorem exists_forall₂_iff {R : α → β → Prop} {l : List α} :
    (∃ bs, List.Forall₂ R l bs) ↔ ∀ a ∈ l, ∃ b, R a b := by
  induction l with
  | nil => simp
  | cons a rest ih =>
    rw [List.forall_mem_cons, ← ih]
    constructor
    · rintro ⟨_, _ | ⟨ha, hrest⟩⟩
      exact ⟨⟨_, ha⟩, _, hrest⟩
    · rintro ⟨⟨b, ha⟩, bs, hrest⟩
      exact ⟨b :: bs, .cons ha hrest⟩

theorem exists_of_forall₂ {R : α → β → Prop} {l : List α} {bs : List β}
    (h : List.Forall₂ R l bs) {b : β} (hb : b ∈ bs) : ∃ a ∈ l, R a b := by
  induction h with
  | nil => cases hb
  | @cons a b' _ _ ha _ ih =>
    rcases List.mem_cons.1 hb with rfl | hb
    · exact ⟨a, List.mem_cons_self, ha⟩
    · obtain ⟨a', ha', hR⟩ := ih hb
      exact ⟨a', List.mem_cons_of_mem a ha', hR⟩

theorem forall₂_and_right {R : α → β → Prop} {P : β → Prop} {l : List α} {bs : List β} :
    List.Forall₂ (fun a b => R a b ∧ P b) l bs ↔ List.Forall₂ R l bs ∧ ∀ b ∈ bs, P b := by
  constructor
  · intro h
    refine ⟨h.imp fun _ _ hab => hab.1, fun b hb => ?_⟩
    obtain ⟨a, -, hab⟩ := exists_of_forall₂ h hb
    exact hab.2
  · rintro ⟨h, hP⟩
    induction h with
    | nil => exact .nil
    | cons hab _ ih =>
      obtain ⟨hb, hrest⟩ := List.forall_mem_cons.1 hP
      exact .cons ⟨hab, hb⟩ (ih hrest)

theorem mapM_eq_ok_iff {f : α → Except ε β} {l : List α} {bs : List β} :
    l.mapM f = .ok bs ↔ List.Forall₂ (fun a b => f a = .ok b) l bs := by
  induction l generalizing bs with
  | nil => cases bs <;> simp [pure, Except.pure]
  | cons a rest ih =>
    simp only [List.mapM_cons, bind_eq_ok_iff, ih, List.forall₂_cons_left_iff]
    constructor
    · rintro ⟨b, ha, bs', hrest, h⟩
      cases h
      exact ⟨b, bs', ha, hrest, rfl⟩
    · rintro ⟨b, bs', ha, hrest, rfl⟩
      exact ⟨b, ha, bs', hrest, rfl⟩

/-- Whether a list of computations has the list of these values depends on each of them. -/
theorem mapM_eq_ok_iff_of_eq_ok {f g : α → Except ε β} {l : List α} {bs : List β}
    (h : l.mapM f = .ok bs) : l.mapM g = .ok bs ↔ ∀ a ∈ l, g a = f a := by
  rw [mapM_eq_ok_iff] at h ⊢
  induction h with
  | nil => simp
  | cons ha _ ih => rw [List.forall₂_cons, List.forall_mem_cons, ih, ha]

/-- Computations that agree in what is made of each value agree in what is made of the values. -/
theorem map_mapM_congr {f g : α → Except ε β} {u : β → γ} {l : List α}
    (h : ∀ a ∈ l, (f a).map u = (g a).map u) :
    (l.mapM f).map (List.map u) = (l.mapM g).map (List.map u) := by
  have hcons (f : α → Except ε β) (a : α) (rest : List α) :
      ((a :: rest).mapM f).map (List.map u) =
        (f a).map u >>= fun c => ((rest.mapM f).map (List.map u)).map (c :: ·) := by
    rw [List.mapM_cons]
    cases f a <;> cases rest.mapM f <;> rfl
  induction l with
  | nil => rfl
  | cons a rest ih =>
    obtain ⟨ha, hrest⟩ := List.forall_mem_cons.1 h
    rw [hcons, hcons, ha, ih hrest]

theorem forM_eq_ok_iff {f : α → Except ε Unit} {l : List α} :
    l.forM f = .ok () ↔ ∀ a ∈ l, f a = .ok () := by
  induction l with
  | nil => exact iff_of_true rfl (by simp)
  | cons a rest ih =>
    rw [List.forM_eq_forM, List.forM_cons, bind_eq_ok_iff, List.forall_mem_cons, ← ih]
    exact ⟨fun ⟨_, ha, hrest⟩ => ⟨ha, hrest⟩, fun ⟨ha, hrest⟩ => ⟨(), ha, hrest⟩⟩

/-- The error is that of the first in the list to fail. -/
def FailsFirst (f : α → Except ε β) (l : List α) (e : ε) : Prop :=
  ∃ before a after, l = before ++ a :: after ∧ (∀ b ∈ before, ∃ v, f b = .ok v) ∧ f a = .error e

theorem not_failsFirst_nil {f : α → Except ε β} {e : ε} : ¬ FailsFirst f [] e := by
  rintro ⟨before, a, after, h, -⟩
  simp at h

theorem failsFirst_cons_iff {f : α → Except ε β} {a : α} {l : List α} {e : ε} :
    FailsFirst f (a :: l) e ↔ f a = .error e ∨ (∃ v, f a = .ok v) ∧ FailsFirst f l e := by
  constructor
  · rintro ⟨before, b, after, h, hbefore, hb⟩
    cases before with
    | nil =>
      obtain ⟨rfl, rfl⟩ := List.cons.inj h
      exact Or.inl hb
    | cons c before =>
      obtain ⟨rfl, rfl⟩ := List.cons.inj h
      obtain ⟨hc, hrest⟩ := List.forall_mem_cons.1 hbefore
      exact Or.inr ⟨hc, before, b, after, rfl, hrest, hb⟩
  · rintro (ha | ⟨ha, before, b, after, rfl, hbefore, hb⟩)
    · exact ⟨[], a, l, rfl, by simp, ha⟩
    · exact ⟨a :: before, b, after, rfl, List.forall_mem_cons.2 ⟨ha, hbefore⟩, hb⟩

theorem mapM_eq_error_iff {f : α → Except ε β} {l : List α} {e : ε} :
    l.mapM f = .error e ↔ FailsFirst f l e := by
  induction l with
  | nil => simp [not_failsFirst_nil, pure, Except.pure]
  | cons a rest ih =>
    rw [List.mapM_cons, failsFirst_cons_iff, ← ih]
    cases f a with
    | error e' => simp
    | ok b => cases rest.mapM f <;> simp [pure, Except.pure]

theorem forM_eq_error_iff {f : α → Except ε Unit} {l : List α} {e : ε} :
    l.forM f = .error e ↔ FailsFirst f l e := by
  induction l with
  | nil => exact iff_of_false (by rintro ⟨⟩) not_failsFirst_nil
  | cons a rest ih =>
    rw [List.forM_eq_forM, List.forM_cons, failsFirst_cons_iff, ← ih]
    cases f a with
    | error e' => simp
    | ok b => simp

/-- What each step keeps a fold keeps. -/
theorem of_foldlM_eq_ok {P : β → Prop} {f : β → α → Except ε β}
    (hf : ∀ b a b', P b → f b a = .ok b' → P b') {l : List α} {b b' : β} (hb : P b)
    (h : l.foldlM f b = .ok b') : P b' := by
  induction l generalizing b with
  | nil =>
    cases h
    exact hb
  | cons a rest ih =>
    rw [List.foldlM_cons] at h
    obtain ⟨c, hc, h⟩ := bind_eq_ok_iff.1 h
    exact ih (hf b a c hb hc) h

/-- What is true of the errors of each step is true of the error of a fold. -/
theorem of_foldlM_eq_error {P : ε → Prop} {f : β → α → Except ε β} {l : List α}
    (hf : ∀ a ∈ l, ∀ b e, f b a = .error e → P e) {b : β} {e : ε}
    (h : l.foldlM f b = .error e) : P e := by
  induction l generalizing b with
  | nil => cases h
  | cons a rest ih =>
    obtain ⟨ha, hrest⟩ := List.forall_mem_cons.1 hf
    rw [List.foldlM_cons, bind_eq_error_iff] at h
    rcases h with h | ⟨b', -, h⟩
    · exact ha b e h
    · exact ih hrest h

/-! ## Known faults -/

/-- The value, unless there is a fault. -/
def okUnless (fault : Option ε) (a : α) : Except ε α :=
  match fault with
  | some e => .error e
  | none => .ok a

@[simp] theorem okUnless_none (a : α) : okUnless (none : Option ε) a = .ok a := rfl

@[simp] theorem okUnless_some (e : ε) (a : α) : okUnless (some e) a = .error e := rfl

theorem okUnless_eq_ok_iff {fault : Option ε} {a b : α} :
    okUnless fault a = .ok b ↔ fault = none ∧ a = b := by
  cases fault <;> simp

theorem okUnless_eq_error_iff {fault : Option ε} {a : α} {e : ε} :
    okUnless fault a = .error e ↔ fault = some e := by
  cases fault <;> simp

theorem map_okUnless (fault : Option ε) (a : α) (f : α → β) :
    (okUnless fault a).map f = okUnless fault (f a) := by
  cases fault <;> rfl

/-- Two computations in a row fail with the first fault of the two. -/
theorem okUnless_bind (fault later : Option ε) (a : α) (b : β) {f : α → Except ε β}
    (h : fault = none → f a = okUnless later b) :
    (okUnless fault a >>= f) = okUnless (fault.or later) b := by
  cases fault with
  | some e => rfl
  | none => exact h rfl

/-- The computation fails if there is a fault, and else it succeeds with a value as described. -/
def Follows (x : Except ε α) (fault : Option Error) (P : α → Prop) : Prop :=
  match fault with
  | some _ => ∃ e, x = .error e
  | none => ∃ a, x = .ok a ∧ P a

theorem Follows.exists_eq_ok_iff {x : Except ε α} {fault : Option Error} {P : α → Prop}
    (h : Follows x fault P) : (∃ a, x = .ok a) ↔ fault = none := by
  cases fault with
  | some fault =>
    obtain ⟨e, rfl⟩ := h
    simp
  | none =>
    obtain ⟨a, rfl, -⟩ := h
    simp

theorem Follows.imp {x : Except ε α} {fault : Option Error} {P Q : α → Prop}
    (h : Follows x fault P) (hPQ : ∀ a, P a → Q a) : Follows x fault Q := by
  cases fault with
  | some fault => exact h
  | none =>
    obtain ⟨a, rfl, ha⟩ := h
    exact ⟨a, rfl, hPQ a ha⟩

/-- Two computations in a row follow the first fault of the two. -/
theorem Follows.bind {x : Except ε α} {f : α → Except ε β} {fault later : Option Error}
    {P : α → Prop} {Q : β → Prop} (hx : Follows x fault P)
    (hf : fault = none → ∀ a, P a → Follows (f a) later Q) :
    Follows (x >>= f) (fault.or later) Q := by
  cases fault with
  | some fault =>
    obtain ⟨e, rfl⟩ := hx
    exact ⟨e, rfl⟩
  | none =>
    obtain ⟨a, rfl, ha⟩ := hx
    exact hf rfl a ha

end AdvancedSignature
