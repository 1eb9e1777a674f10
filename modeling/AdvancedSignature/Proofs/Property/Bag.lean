import AdvancedSignature.Property.Bag
import Mathlib.Data.List.Nodup
import Mathlib.Data.List.Pairwise

/-!
# What a bag holds

A bag keeps a list of properties and counts their kinds beside it.  `KindCounts.Describes` says
that the counts are those of a list of kinds, and `Bag.IsConsistent` that they are those of the
bag's own entries, none of which is listed twice.

* `Bag.putOrAdd_eq` says what `putOrAdd` does to a consistent bag, and `Bag.putOrAdd_eq_ok_iff` when
  it succeeds: exactly when the bag `Admits` the property.
* `Bag.remove_append` takes a property that was just appended out again and finds the bag as it
  was, counts included.
* `Bag.IsDisciplined` adds that a kind with the policy `put` occurs once; `putOrAdd` keeps it.
* `InstanceList.lists_ofList`: given properties are listed once each, at their first occurrences.
-/

namespace AdvancedSignature

/-! ## Counting kinds -/

namespace KindCounts

/-- The counts are those of a list of kinds, and no kind has an entry without occurring. -/
structure Describes (c : KindCounts) (kinds : List PropertyKind) : Prop where
  nodup : (c.entries.map Prod.fst).Nodup
  count_eq : ∀ k, c.count k = kinds.count k
  pos : ∀ e ∈ c.entries, 0 < e.2

theorem describes_nil : Describes {} [] := ⟨List.nodup_nil, fun _ => rfl, by simp⟩

theorem lookup_raise (k k' : PropertyKind) (l : List (PropertyKind × Nat)) :
    lookup k' (raise k l) = lookup k' l + if k' = k then 1 else 0 := by
  induction l with
  | nil => simp [raise, lookup, eq_comm]
  | cons e rest ih =>
    obtain ⟨j, n⟩ := e
    by_cases hj : j = k
    · subst hj
      by_cases hk : k' = j
      · simp [raise, lookup, hk]
      · simp [raise, lookup, hk, Ne.symm hk]
    · by_cases hk : j = k'
      · subst hk
        simp [raise, lookup, hj]
      · simp [raise, lookup, hj, hk, ih]

theorem keys_raise (k : PropertyKind) (l : List (PropertyKind × Nat)) :
    (raise k l).map Prod.fst =
      if k ∈ l.map Prod.fst then l.map Prod.fst else l.map Prod.fst ++ [k] := by
  induction l with
  | nil => simp [raise]
  | cons e rest ih =>
    obtain ⟨j, n⟩ := e
    by_cases hj : j = k
    · simp [raise, hj]
    · by_cases hk : k ∈ rest.map Prod.fst
      · rw [if_pos hk] at ih
        rw [if_pos (by simp only [List.map_cons, List.mem_cons, hk, or_true])]
        simp only [raise, if_neg hj, List.map_cons, ih]
      · rw [if_neg hk] at ih
        rw [if_neg (by
          simp only [List.map_cons, List.mem_cons, hk, Ne.symm hj, or_self, not_false_eq_true])]
        simp only [raise, if_neg hj, List.map_cons, ih, List.cons_append]

theorem pos_raise {k : PropertyKind} {l : List (PropertyKind × Nat)} (h : ∀ e ∈ l, 0 < e.2) :
    ∀ e ∈ raise k l, 0 < e.2 := by
  induction l with
  | nil => simp [raise]
  | cons e rest ih =>
    obtain ⟨j, n⟩ := e
    have hrest : ∀ e ∈ rest, 0 < e.2 := fun e he => h e (List.mem_cons_of_mem _ he)
    by_cases hj : j = k
    · simp only [raise, if_pos hj, List.forall_mem_cons]
      exact ⟨Nat.succ_pos n, hrest⟩
    · simp only [raise, if_neg hj, List.forall_mem_cons]
      exact ⟨h _ List.mem_cons_self, ih hrest⟩

theorem lower_raise (k : PropertyKind) {l : List (PropertyKind × Nat)} (h : ∀ e ∈ l, 0 < e.2) :
    lower k (raise k l) = l := by
  induction l with
  | nil => simp [raise, lower]
  | cons e rest ih =>
    obtain ⟨j, n⟩ := e
    have hn : 0 < n := h _ List.mem_cons_self
    by_cases hj : j = k
    · simp [raise, lower, hj, Nat.ne_of_gt hn]
    · simp only [raise, lower, if_neg hj, ih fun e he => h e (List.mem_cons_of_mem _ he)]

theorem lookup_pos_iff {k : PropertyKind} {l : List (PropertyKind × Nat)}
    (h : ∀ e ∈ l, 0 < e.2) : 0 < lookup k l ↔ k ∈ l.map Prod.fst := by
  induction l with
  | nil => simp [lookup]
  | cons e rest ih =>
    obtain ⟨j, n⟩ := e
    by_cases hj : j = k
    · simpa [lookup, hj] using h _ List.mem_cons_self
    · simpa [lookup, hj, Ne.symm hj] using ih fun e he => h e (List.mem_cons_of_mem _ he)

variable {c : KindCounts} {kinds : List PropertyKind}

/-- A kind has an entry exactly when it occurs. -/
theorem Describes.contains_iff (h : c.Describes kinds) (k : PropertyKind) :
    c.contains k = true ↔ k ∈ kinds := by
  have hkeys : c.contains k = true ↔ k ∈ c.entries.map Prod.fst := by
    simp only [contains, List.any_eq_true, beq_iff_eq, List.mem_map]
  rw [hkeys, ← lookup_pos_iff h.pos, show lookup k c.entries = kinds.count k from h.count_eq k,
    List.count_pos_iff]

theorem Describes.increment (h : c.Describes kinds) (k : PropertyKind) :
    (c.increment k).Describes (kinds ++ [k]) where
  nodup := by
    change ((raise k c.entries).map Prod.fst).Nodup
    rw [keys_raise]
    split_ifs with hk
    · exact h.nodup
    · exact h.nodup.append (List.nodup_singleton k) (by simpa using hk)
  count_eq k' := by
    have hcount : lookup k' c.entries = kinds.count k' := h.count_eq k'
    change lookup k' (raise k c.entries) = (kinds ++ [k]).count k'
    rw [lookup_raise, hcount, List.count_append, List.count_singleton]
    by_cases hk : k' = k
    · simp [hk]
    · simp [hk, Ne.symm hk]
  pos := pos_raise h.pos

theorem lookup_lower (k k' : PropertyKind) {l : List (PropertyKind × Nat)}
    (hkeys : (l.map Prod.fst).Nodup) (hpos : ∀ e ∈ l, 0 < e.2) :
    lookup k' (lower k l) = lookup k' l - if k' = k then 1 else 0 := by
  induction l with
  | nil => simp [lower, lookup]
  | cons e rest ih =>
    obtain ⟨j, n⟩ := e
    obtain ⟨hj, hrest⟩ := List.nodup_cons.1 hkeys
    have hposrest : ∀ e ∈ rest, 0 < e.2 := fun e he => hpos e (List.mem_cons_of_mem _ he)
    by_cases hk : j = k
    · subst hk
      -- an entry that goes leaves none behind for its kind
      have hnone : lookup j rest = 0 :=
        Nat.eq_zero_of_not_pos (mt (lookup_pos_iff hposrest).1 hj)
      by_cases hn : n ≤ 1
      · have hone : n = 1 := Nat.le_antisymm hn (hpos _ List.mem_cons_self)
        by_cases hk' : k' = j
        · simp [lower, lookup, hk', hone, hnone]
        · simp [lower, lookup, hk', Ne.symm hk', hone]
      · by_cases hk' : k' = j
        · simp [lower, lookup, hk', hn]
        · simp [lower, lookup, hk', Ne.symm hk', hn]
    · have ih := ih hrest hposrest
      by_cases hk' : j = k'
      · subst hk'
        simp [lower, lookup, hk]
      · simp [lower, lookup, hk, hk', ih]

theorem lower_entries (k : PropertyKind) (l : List (PropertyKind × Nat)) :
    ((lower k l).map Prod.fst).Sublist (l.map Prod.fst) ∧
      ((∀ e ∈ l, 0 < e.2) → ∀ e ∈ lower k l, 0 < e.2) := by
  induction l with
  | nil => simp [lower]
  | cons e rest ih =>
    obtain ⟨j, n⟩ := e
    by_cases hk : j = k
    · by_cases hn : n ≤ 1
      · simp only [lower, if_pos hk, if_pos hn]
        exact ⟨List.sublist_cons_self _ _, fun h e he => h e (List.mem_cons_of_mem _ he)⟩
      · simp only [lower, if_pos hk, if_neg hn, List.forall_mem_cons]
        exact ⟨List.Sublist.refl _, fun h => ⟨by omega, h.2⟩⟩
    · simp only [lower, if_neg hk, List.forall_mem_cons]
      exact ⟨ih.1.cons_cons j, fun h => ⟨h.1, ih.2 h.2⟩⟩

/-- One less of a kind that occurs. -/
theorem Describes.decrement (h : c.Describes kinds) {k : PropertyKind} {rest : List PropertyKind}
    (hperm : kinds.Perm (k :: rest)) : (c.decrement k).Describes rest where
  nodup := h.nodup.sublist (lower_entries k c.entries).1
  count_eq k' := by
    have hcount : lookup k' c.entries = kinds.count k' := h.count_eq k'
    change lookup k' (lower k c.entries) = rest.count k'
    rw [lookup_lower k k' h.nodup h.pos, hcount, hperm.count_eq, List.count_cons]
    by_cases hk : k' = k
    · simp [hk]
    · simp [hk, Ne.symm hk]
  pos := (lower_entries k c.entries).2 h.pos

/-- The entries are the kinds that occur, each with the number of its occurrences. -/
theorem Describes.mem_entries_iff (h : c.Describes kinds) {k : PropertyKind} {n : Nat} :
    (k, n) ∈ c.entries ↔ 0 < n ∧ n = kinds.count k := by
  have hlookup {l : List (PropertyKind × Nat)} (hl : (l.map Prod.fst).Nodup) :
      (k, n) ∈ l ↔ k ∈ l.map Prod.fst ∧ n = lookup k l := by
    induction l with
    | nil => simp
    | cons e rest ih =>
      obtain ⟨j, m⟩ := e
      obtain ⟨hj, hrest⟩ := List.nodup_cons.1 hl
      by_cases hk : k = j
      · subst hk
        have hnot : (k, n) ∉ rest := fun hmem => hj (List.mem_map.2 ⟨_, hmem, rfl⟩)
        simp [lookup, hnot]
      · simp [lookup, hk, Ne.symm hk, ih hrest]
  rw [hlookup h.nodup, ← lookup_pos_iff h.pos, show lookup k c.entries = kinds.count k from
    h.count_eq k]
  constructor
  · exact fun ⟨hpos, heq⟩ => ⟨heq ▸ hpos, heq⟩
  · exact fun ⟨hpos, heq⟩ => ⟨heq ▸ hpos, heq⟩

/-- Counting one more and one less of a kind leaves no trace. -/
theorem Describes.decrement_increment (h : c.Describes kinds) (k : PropertyKind) :
    (c.increment k).decrement k = c := by
  simp only [KindCounts.decrement, KindCounts.increment, lower_raise k h.pos]

end KindCounts

/-! ## Consistent bags -/

namespace Bag

variable {α : Type} [HasKind α]

/-- No property is listed twice, and the counts are those of the kinds listed. -/
structure IsConsistent (b : Bag α) : Prop where
  nodup : b.entries.Nodup
  counts : b.counts.Describes (b.entries.map HasKind.kind)

/-- The bag can take the property in: it is not there yet, and if it wants to be the only one of
its kind then the kind does not occur. -/
def Admits (b : Bag α) (p : α) : Prop :=
  p ∉ b.entries ∧
    ((HasKind.kind p).insertionPolicy = .put → HasKind.kind p ∉ b.entries.map HasKind.kind)

theorem isConsistent_empty : IsConsistent ({} : Bag α) := ⟨List.nodup_nil, KindCounts.describes_nil⟩

theorem entries_append (b : Bag α) (p : α) : (b.append p).entries = b.entries ++ [p] := rfl

theorem mem_append {b : Bag α} {p q : α} : q ∈ (b.append p).entries ↔ q ∈ b.entries ∨ q = p := by
  simp [entries_append]

theorem IsConsistent.append {b : Bag α} (hb : b.IsConsistent) {p : α} (hp : p ∉ b.entries) :
    (b.append p).IsConsistent where
  nodup := hb.nodup.append (List.nodup_singleton p) (by simpa using hp)
  counts := by
    rw [entries_append, List.map_append]
    exact hb.counts.increment (HasKind.kind p)

theorem IsConsistent.containsKind_iff {b : Bag α} (hb : b.IsConsistent) (k : PropertyKind) :
    b.containsKind k = true ↔ k ∈ b.entries.map HasKind.kind := hb.counts.contains_iff k

/-- A property of a kind that does not occur is not there. -/
theorem not_mem_of_kind {b : Bag α} {p : α} (h : HasKind.kind p ∉ b.entries.map HasKind.kind) :
    p ∉ b.entries := fun hp => h (List.mem_map_of_mem hp)

variable [DecidableEq α]

/-- What `putOrAdd` does to a consistent bag. -/
theorem IsConsistent.putOrAdd_eq {b : Bag α} (hb : b.IsConsistent) (p : α) :
    b.putOrAdd p =
      if (HasKind.kind p).insertionPolicy = .put then
        if HasKind.kind p ∈ b.entries.map HasKind.kind then
          .error (.duplicatePropertyKind (HasKind.kind p))
        else .ok (b.append p)
      else if p ∈ b.entries then .error (.duplicateInstance (HasKind.kind p))
      else .ok (b.append p) := by
  have hkind := hb.containsKind_iff (HasKind.kind p)
  cases hpolicy : (HasKind.kind p).insertionPolicy with
  | put => simp only [putOrAdd, hpolicy, put, hkind, if_pos]
  | add => simp [putOrAdd, hpolicy, add, contains]

/-- A property that is not there yet is refused for its kind only. -/
theorem IsConsistent.putOrAdd_of_notMem {b : Bag α} (hb : b.IsConsistent) {p : α}
    (hp : p ∉ b.entries) :
    b.putOrAdd p =
      if (HasKind.kind p).insertionPolicy = .put ∧
          HasKind.kind p ∈ b.entries.map HasKind.kind then
        .error (.duplicatePropertyKind (HasKind.kind p))
      else .ok (b.append p) := by
  rw [hb.putOrAdd_eq, ite_and, if_neg hp]

/-- A consistent bag takes in exactly what it admits, at the end. -/
theorem IsConsistent.putOrAdd_eq_ok_iff {b b' : Bag α} (hb : b.IsConsistent) (p : α) :
    b.putOrAdd p = .ok b' ↔ b.Admits p ∧ b' = b.append p := by
  rw [hb.putOrAdd_eq]
  split_ifs with hpolicy hkind hmem
  · simp [Admits, hpolicy, hkind]
  · simp [Admits, hpolicy, hkind, not_mem_of_kind hkind, eq_comm]
  · simp [Admits, hmem]
  · simp [Admits, hpolicy, hmem, eq_comm]

/-- A consistent bag refuses what it does not admit and appends what it does. -/
theorem IsConsistent.putOrAdd_cases {b : Bag α} (hb : b.IsConsistent) (p : α) :
    (¬ b.Admits p ∧ ∃ e, b.putOrAdd p = .error e) ∨
      (b.Admits p ∧ b.putOrAdd p = .ok (b.append p)) := by
  cases hput : b.putOrAdd p with
  | error e =>
    refine Or.inl ⟨fun hadmits => ?_, e, rfl⟩
    rw [(hb.putOrAdd_eq_ok_iff p).2 ⟨hadmits, rfl⟩] at hput
    cases hput
  | ok b' =>
    obtain ⟨hadmits, rfl⟩ := (hb.putOrAdd_eq_ok_iff p).1 hput
    exact Or.inr ⟨hadmits, rfl⟩

/-- Taking in fails because of the kind or because of the property itself. -/
theorem IsConsistent.error_of_putOrAdd {b : Bag α} (hb : b.IsConsistent) {p : α} {e : Error}
    (h : b.putOrAdd p = .error e) :
    e = .duplicatePropertyKind (HasKind.kind p) ∨ e = .duplicateInstance (HasKind.kind p) := by
  rw [hb.putOrAdd_eq] at h
  split_ifs at h <;> simp_all

/-- A property that was just appended can be taken out, and the bag is as it was. -/
theorem IsConsistent.remove_append {b : Bag α} (hb : b.IsConsistent) {p : α}
    (hp : p ∉ b.entries) : (b.append p).remove p = .ok b := by
  have hentries : (b.entries ++ [p]).erase p = b.entries := by
    rw [List.erase_append_right _ hp]
    simp
  have hcounts := hb.counts.decrement_increment (HasKind.kind p)
  simp [remove, contains, Bag.append, hentries, hcounts]

/-- A property that is there is taken out, and the others keep their order. -/
theorem IsConsistent.remove_eq {b : Bag α} (hb : b.IsConsistent) (p : α) :
    b.remove p =
      if p ∈ b.entries then
        .ok ⟨b.entries.filter (· ≠ p), b.counts.decrement (HasKind.kind p)⟩
      else .error (.notPresent (HasKind.kind p)) := by
  have herase : b.entries.erase p = b.entries.filter (· ≠ p) := by
    rw [hb.nodup.erase_eq_filter]
    refine List.filter_congr fun q _ => ?_
    by_cases hq : q = p <;> simp [hq]
  simp only [remove, contains, List.contains_iff_mem, herase]

theorem IsConsistent.remove {b b' : Bag α} (hb : b.IsConsistent) {p : α}
    (h : b.remove p = .ok b') : b'.IsConsistent ∧ b'.entries.Sublist b.entries := by
  unfold Bag.remove at h
  split_ifs at h with hp
  cases h
  have hperm : b.entries.Perm (p :: b.entries.erase p) :=
    List.perm_cons_erase (List.contains_iff_mem.1 hp)
  exact ⟨⟨hb.nodup.erase p, hb.counts.decrement (hperm.map HasKind.kind)⟩, List.erase_sublist⟩

/-! ## Disciplined bags -/

/-- The bag is consistent and holds one property of a kind with the policy `put`. -/
structure IsDisciplined (b : Bag α) : Prop extends IsConsistent b where
  single : b.entries.Pairwise fun p q =>
    (HasKind.kind p).insertionPolicy = .put → HasKind.kind q ≠ HasKind.kind p

omit [DecidableEq α] in
theorem isDisciplined_empty : IsDisciplined ({} : Bag α) := ⟨isConsistent_empty, .nil⟩

omit [DecidableEq α] in
theorem IsDisciplined.append {b : Bag α} (hb : b.IsDisciplined) {p : α} (hp : b.Admits p) :
    (b.append p).IsDisciplined where
  toIsConsistent := hb.toIsConsistent.append hp.1
  single := by
    rw [entries_append, List.pairwise_append]
    refine ⟨hb.single, List.pairwise_singleton _ _, fun q hq r hr hpolicy hkind => ?_⟩
    obtain rfl := List.mem_singleton.1 hr
    exact hp.2 (hkind ▸ hpolicy) (hkind ▸ List.mem_map_of_mem hq)

/-- Under the discipline of the kinds a disciplined bag stays one. -/
theorem IsDisciplined.putOrAdd {b b' : Bag α} (hb : b.IsDisciplined) {p : α}
    (h : b.putOrAdd p = .ok b') : b'.IsDisciplined := by
  obtain ⟨hadmits, rfl⟩ := (hb.putOrAdd_eq_ok_iff p).1 h
  exact hb.append hadmits

/-- Taking a property out leaves the discipline to the others. -/
theorem IsDisciplined.remove {b b' : Bag α} (hb : b.IsDisciplined) {p : α}
    (h : b.remove p = .ok b') : b'.IsDisciplined := by
  obtain ⟨hconsistent, hsub⟩ := hb.toIsConsistent.remove h
  exact { toIsConsistent := hconsistent, single := hb.single.sublist hsub }

omit [DecidableEq α] in
/-- Of a kind with the policy `put` there is one property. -/
theorem IsDisciplined.eq_of_kind {b : Bag α} (hb : b.IsDisciplined) {p q : α} (hp : p ∈ b.entries)
    (hq : q ∈ b.entries) (hkind : HasKind.kind p = HasKind.kind q)
    (hpolicy : (HasKind.kind p).insertionPolicy = .put) : p = q := by
  by_contra hne
  have hsymm : Std.Symm fun p q : α =>
      (HasKind.kind p).insertionPolicy = .put → HasKind.kind q ≠ HasKind.kind p :=
    ⟨fun p q h hput heq => h (heq ▸ hput) heq.symm⟩
  exact hb.single.forall hp hq hne hpolicy hkind.symm

omit [DecidableEq α] in
theorem IsDisciplined.length_ofKind_le {b : Bag α} (hb : b.IsDisciplined) {k : PropertyKind}
    (hk : k.insertionPolicy = .put) : (b.ofKind k).length ≤ 1 := by
  have hkind : ∀ p ∈ b.ofKind k, HasKind.kind p = k := by simp [ofKind]
  have hsingle : (b.ofKind k).Pairwise fun p q =>
      (HasKind.kind p).insertionPolicy = .put → HasKind.kind q ≠ HasKind.kind p :=
    hb.single.filter _
  cases hentries : b.ofKind k with
  | nil => exact Nat.zero_le 1
  | cons p rest =>
    cases rest with
    | nil => exact Nat.le_refl 1
    | cons q rest =>
      -- the second of two would not have been taken in beside the first
      rw [hentries] at hkind hsingle
      have hp : HasKind.kind p = k := hkind p (by simp)
      have hq : HasKind.kind q = k := hkind q (by simp)
      have hdiffer := List.rel_of_pairwise_cons hsingle List.mem_cons_self (hp ▸ hk)
      exact absurd (hq.trans hp.symm) hdiffer

end Bag

/-! ## Instance lists -/

namespace InstanceList

variable {α : Type} [DecidableEq α]

/-- A property that is listed is refused, and any other is appended. -/
theorem push_cases [HasKind α] (l : InstanceList α) (p : α) :
    (p ∈ l.entries ∧ ∃ e, l.push p = .error e) ∨
      (p ∉ l.entries ∧ l.push p = .ok ⟨l.entries ++ [p]⟩) := by
  simp only [push, contains, List.contains_iff_mem]
  by_cases hp : p ∈ l.entries
  · exact Or.inl ⟨hp, _, if_pos hp⟩
  · exact Or.inr ⟨hp, if_neg hp⟩

theorem pushUnique_eq (l : InstanceList α) (p : α) :
    l.pushUnique p = if p ∈ l.entries then (false, l) else (true, ⟨l.entries ++ [p]⟩) := by
  simp only [pushUnique, contains, List.contains_iff_mem]

/-- The list holds what occurs among the properties, each once and in the order in which they
first occur. -/
structure Lists (l : InstanceList α) (ps : List α) : Prop where
  nodup : l.entries.Nodup
  mem_iff : ∀ p, p ∈ l.entries ↔ p ∈ ps
  order : l.entries.Pairwise fun p q => ps.idxOf p < ps.idxOf q

theorem lists_nil : ({} : InstanceList α).Lists [] := ⟨List.nodup_nil, by simp, List.Pairwise.nil⟩

theorem Lists.pushUnique {l : InstanceList α} {ps : List α} (h : l.Lists ps) (p : α) :
    (l.pushUnique p).2.Lists (ps ++ [p]) := by
  -- the first occurrences so far stay where they are
  have horder : l.entries.Pairwise fun q r => (ps ++ [p]).idxOf q < (ps ++ [p]).idxOf r := by
    refine h.order.imp_of_mem fun {q r} hq hr hlt => ?_
    rwa [List.idxOf_append_of_mem ((h.mem_iff q).1 hq),
      List.idxOf_append_of_mem ((h.mem_iff r).1 hr)]
  rw [pushUnique_eq]
  split_ifs with hp
  · refine ⟨h.nodup, fun q => ?_, horder⟩
    rw [List.mem_append, List.mem_singleton, ← h.mem_iff]
    exact ⟨Or.inl, fun hq => hq.elim id fun heq => heq ▸ hp⟩
  · refine ⟨h.nodup.append (List.nodup_singleton p) (by simpa using hp), fun q => ?_, ?_⟩
    · rw [List.mem_append, List.mem_append, h.mem_iff]
    · refine List.pairwise_append.2 ⟨horder, List.pairwise_singleton _ _, fun q hq r hr => ?_⟩
      obtain rfl := List.mem_singleton.1 hr
      rw [h.mem_iff] at hp hq
      rw [List.idxOf_append_of_mem hq, List.idxOf_append_of_notMem hp, List.idxOf_cons_self]
      exact List.idxOf_lt_length_of_mem hq

/-- Given properties are listed at their first occurrences. -/
theorem lists_ofList (ps : List α) : (ofList ps).Lists ps := by
  have hfold (l : InstanceList α) (before : List α) (h : l.Lists before) :
      (ps.foldl (fun l p => (l.pushUnique p).2) l).Lists (before ++ ps) := by
    induction ps generalizing l before with
    | nil => simpa using h
    | cons p rest ih =>
      rw [List.foldl_cons, List.append_cons]
      exact ih _ _ (h.pushUnique p)
  exact hfold {} [] lists_nil

theorem nodup_ofList (ps : List α) : (ofList ps).entries.Nodup := (lists_ofList ps).nodup

theorem mem_ofList {ps : List α} {q : α} : q ∈ (ofList ps).entries ↔ q ∈ ps :=
  (lists_ofList ps).mem_iff q

end InstanceList

end AdvancedSignature
