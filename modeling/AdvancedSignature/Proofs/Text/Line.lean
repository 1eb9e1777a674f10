import AdvancedSignature.Report

/-!
# Lines of texts

A text that is made of lines is taken apart at its line feeds.  What comes of it are the same lines
only if none of them holds a line feed itself.

* `Line.IsUnbroken` says that a text has no line feed.  It is so of a text that is put together
  exactly if it is so of its parts.
* `Line.parts` are what stands between the line feeds of a text, and `Line.lines` what stands before
  each of them.
* `Line.lines_ofLines`: each of the lines that a text is made of gives its parts, which is itself if
  it is unbroken (`Line.lines_ofLines_eq_iff`).
-/

namespace AdvancedSignature.Line

/-! ## Unbroken texts -/

/-- The text has no line feed. -/
def IsUnbroken (s : String) : Prop := '\n' ∉ s.toList

instance (s : String) : Decidable (IsUnbroken s) := inferInstanceAs (Decidable ('\n' ∉ s.toList))

@[simp]
theorem isUnbroken_append {s t : String} :
    IsUnbroken (s ++ t) ↔ IsUnbroken s ∧ IsUnbroken t := by
  simp [IsUnbroken]

theorem isUnbroken_intercalate {separator : String} (h : IsUnbroken separator) {l : List String} :
    IsUnbroken (separator.intercalate l) ↔ ∀ s ∈ l, IsUnbroken s := by
  induction l with
  | nil => simp [IsUnbroken]
  | cons s rest ih =>
    cases rest with
    | nil => simp
    | cons t rest => simp [String.intercalate_cons_cons, h, ih]

/-- A text that is interpolated stands there as it is. -/
@[simp]
theorem isUnbroken_toString {s : String} : IsUnbroken (toString s) ↔ IsUnbroken s := Iff.rfl

theorem isUnbroken_repr (n : Nat) : IsUnbroken n.repr := by
  intro hmem
  have hdigit : ('\n' : Char).isDigit = true :=
    Nat.isDigit_of_mem_toDigits (by decide) (by decide) (Nat.toList_repr ▸ hmem)
  exact absurd hdigit (by decide)

/-! ## Taking a text apart -/

/-- What stands between the line feeds of a text, before the first and behind the last of them. -/
def parts (s : String) : List String := (s.toList.splitOn '\n').map String.ofList

/-- What stands before each line feed of a text. -/
def lines (s : String) : List String := (parts s).dropLast

theorem parts_of_isUnbroken {s : String} (h : IsUnbroken s) : parts s = [s] := by
  simp [parts, List.splitOn_eq_singleton h]

theorem parts_append_lineFeed (s t : String) : parts (s ++ "\n" ++ t) = parts s ++ parts t := by
  have hlist : (s ++ "\n" ++ t).toList = s.toList ++ '\n' :: t.toList := by simp
  rw [parts, hlist, List.splitOn_append_cons_self, List.map_append]
  rfl

theorem notMem_of_mem_splitOn {c : Char} {l part : List Char} (h : part ∈ l.splitOn c) :
    c ∉ part := by
  induction l generalizing part with
  | nil =>
    rw [List.splitOn_nil, List.mem_singleton] at h
    simp [h]
  | cons a rest ih =>
    obtain ⟨first, others, hrest⟩ := List.exists_cons_of_ne_nil (List.splitOn_ne_nil c rest)
    rw [List.splitOn_cons_eq_if_modifyHead, hrest] at h
    rw [hrest] at ih
    split at h
    · rcases List.mem_cons.1 h with rfl | hothers
      · exact List.not_mem_nil
      · exact ih hothers
    · next hne =>
      -- the character goes to the front of the first part
      rcases List.mem_cons.1 h with rfl | hothers
      · rw [List.mem_cons, not_or]
        exact ⟨fun hc => hne (by simp [hc]), ih List.mem_cons_self⟩
      · exact ih (List.mem_cons_of_mem _ hothers)

theorem isUnbroken_of_mem_parts {s part : String} (h : part ∈ parts s) : IsUnbroken part := by
  obtain ⟨l, hl, rfl⟩ := List.mem_map.1 h
  rw [IsUnbroken, String.toList_ofList]
  exact notMem_of_mem_splitOn hl

/-- A text made of lines consists of their parts, with nothing behind the last line feed. -/
theorem parts_ofLines (l : List String) :
    parts (Report.ofLines l) = l.flatMap parts ++ [""] := by
  induction l with
  | nil => rfl
  | cons s rest ih =>
    have hcons : Report.ofLines (s :: rest) = s ++ "\n" ++ Report.ofLines rest := by
      simp [Report.ofLines]
    rw [hcons, parts_append_lineFeed, ih, List.flatMap_cons, List.append_assoc]

theorem lines_ofLines (l : List String) : lines (Report.ofLines l) = l.flatMap parts := by
  rw [lines, parts_ofLines, List.dropLast_concat]

/-- The lines that a text is made of are found again exactly if they are unbroken. -/
theorem lines_ofLines_eq_iff {l : List String} :
    lines (Report.ofLines l) = l ↔ ∀ s ∈ l, IsUnbroken s := by
  rw [lines_ofLines]
  constructor
  · intro h s hs
    rw [← h] at hs
    obtain ⟨line, -, hpart⟩ := List.mem_flatMap.1 hs
    exact isUnbroken_of_mem_parts hpart
  · intro h
    induction l with
    | nil => rfl
    | cons s rest ih =>
      obtain ⟨hs, hrest⟩ := List.forall_mem_cons.1 h
      rw [List.flatMap_cons, parts_of_isUnbroken hs, ih hrest, List.singleton_append]

end AdvancedSignature.Line
