import AdvancedSignature.Xml.Document
import Mathlib.Data.List.Lex
import Mathlib.Data.List.Pairwise

/-!
# Document order

Where the nodes of a document stand.  A place is a path of child numbers, and places are ordered
lexicographically: an element comes before what is inside it, and that before the next sibling.

* `ListsInOrder At l` says that the list holds what stands at the places of a relation, once for
  each place and in document order.  The rules below it follow the ways in which lists are made of
  others, so that a traversal is described by the relation that it lists.
* `IsFirst At path a` says what comes first.
* `Node.descend?` and `Document.nodeAt?` find the node at a place; `listsInOrder_elements` is the
  description of the elements of a document.
-/

namespace AdvancedSignature.Xml

/-- A place below a node: the numbers of the children on the way to it. -/
abbrev Path := List Nat

variable {α β : Type} {At : Path → α → Prop} {l : List α}

/-- The list holds what stands at the places, once for each place and in document order. -/
def ListsInOrder (At : Path → α → Prop) (l : List α) : Prop :=
  ∃ located : List (Path × α), located.map Prod.snd = l ∧
    located.Pairwise (fun x y => x.1 < y.1) ∧ ∀ path a, (path, a) ∈ located ↔ At path a

/-- Of what stands at the places this comes first. -/
def IsFirst (At : Path → α → Prop) (path : Path) (a : α) : Prop :=
  At path a ∧ ∀ other b, At other b → path ≤ other

/-- Of two equally deep places the first comes first with anything below it. -/
theorem append_lt_append {path other : Path} (h : path < other)
    (hlength : path.length = other.length) (below below' : Path) :
    path ++ below < other ++ below' := by
  induction path generalizing other with
  | nil =>
    obtain rfl := List.eq_nil_of_length_eq_zero hlength.symm
    exact absurd h (lt_irrefl _)
  | cons i path ih =>
    obtain _ | ⟨j, other⟩ := other
    · cases hlength
    · rw [List.cons_append, List.cons_append, List.cons_lt_cons_iff]
      rcases List.cons_lt_cons_iff.1 h with hij | ⟨rfl, hrest⟩
      · exact Or.inl hij
      · exact Or.inr ⟨rfl, ih hrest (Nat.succ_inj.1 hlength)⟩

namespace ListsInOrder

theorem congr {At' : Path → α → Prop} (h : ListsInOrder At l)
    (hAt : ∀ path a, At path a ↔ At' path a) : ListsInOrder At' l := by
  obtain ⟨located, hl, hordered, hmem⟩ := h
  exact ⟨located, hl, hordered, fun path a => (hmem path a).trans (hAt path a)⟩

/-- The places determine the list. -/
theorem unique {l' : List α} (h : ListsInOrder At l) (h' : ListsInOrder At l') : l = l' := by
  obtain ⟨located, rfl, hordered, hmem⟩ := h
  obtain ⟨located', rfl, hordered', hmem'⟩ := h'
  have hne {x y : Path × α} (hlt : x.1 < y.1) : x ≠ y := fun h => (ne_of_lt hlt) (h ▸ rfl)
  have hperm : located.Perm located' :=
    (List.perm_ext_iff_of_nodup (hordered.imp hne) (hordered'.imp hne)).2
      fun x => (hmem x.1 x.2).trans (hmem' x.1 x.2).symm
  rw [hperm.eq_of_pairwise (fun x y _ _ hxy hyx => absurd hxy (lt_asymm hyx)) hordered hordered']

theorem mem_iff (h : ListsInOrder At l) {a : α} : a ∈ l ↔ ∃ path, At path a := by
  obtain ⟨located, rfl, -, hmem⟩ := h
  simp [← hmem]

theorem eq_nil_iff (h : ListsInOrder At l) : l = [] ↔ ∀ path a, ¬ At path a := by
  simp only [List.eq_nil_iff_forall_not_mem, h.mem_iff, not_exists]
  exact forall_comm

/-- What is true of any two things in different places is true of any two in the list. -/
theorem pairwise_iff (h : ListsInOrder At l) {R : α → α → Prop} (hsymm : ∀ a b, R a b → R b a) :
    l.Pairwise R ↔
      ∀ path a other b, At path a → At other b → path ≠ other → R a b := by
  obtain ⟨located, rfl, hordered, hmem⟩ := h
  rw [List.pairwise_map]
  constructor
  · intro hpair path a other b ha hb hne
    have : Std.Symm fun x y : Path × α => R x.2 y.2 := ⟨fun x y => hsymm x.2 y.2⟩
    exact hpair.forall ((hmem path a).2 ha) ((hmem other b).2 hb) (by simp [hne])
  · intro hR
    refine hordered.imp_of_mem fun {x y} hx hy hlt => ?_
    exact hR x.1 x.2 y.1 y.2 ((hmem _ _).1 hx) ((hmem _ _).1 hy) (ne_of_lt hlt)

theorem nodup_iff (h : ListsInOrder At l) :
    l.Nodup ↔ ∀ path other a, At path a → At other a → path = other := by
  rw [List.Nodup, h.pairwise_iff fun _ _ => Ne.symm]
  constructor
  · intro hne path other a ha hb
    by_contra hpath
    exact hne path a other a ha hb hpath rfl
  · rintro huniq path a other b ha hb hpath rfl
    exact hpath (huniq path other a ha hb)

/-- The head of the list is what comes first. -/
theorem head?_eq_some_iff (h : ListsInOrder At l) {a : α} :
    l.head? = some a ↔ ∃ path, IsFirst At path a := by
  obtain ⟨located, rfl, hordered, hmem⟩ := h
  cases located with
  | nil =>
    have hnone : ∀ path b, ¬ At path b := by simpa using hmem
    simp [IsFirst, hnone]
  | cons x rest =>
    obtain ⟨hfirst, -⟩ := List.pairwise_cons.1 hordered
    simp only [List.map_cons, List.head?_cons, Option.some.injEq]
    constructor
    · rintro rfl
      refine ⟨x.1, (hmem _ _).1 List.mem_cons_self, fun other b hb => ?_⟩
      rcases List.mem_cons.1 ((hmem other b).2 hb) with rfl | hb
      · exact le_refl _
      · exact (hfirst _ hb).le
    · rintro ⟨path, ha, hle⟩
      rcases List.mem_cons.1 ((hmem path a).2 ha) with rfl | ha
      · rfl
      · exact absurd (hfirst _ ha) (not_lt.2 (hle _ _ ((hmem _ _).1 List.mem_cons_self)))

/-- Only one thing comes first. -/
theorem eq_of_isFirst (h : ListsInOrder At l) {path other : Path} {a b : α}
    (ha : IsFirst At path a) (hb : IsFirst At other b) : a = b := by
  have hhead := h.head?_eq_some_iff.2 ⟨path, ha⟩
  rw [h.head?_eq_some_iff.2 ⟨other, hb⟩] at hhead
  exact (Option.some.inj hhead).symm

theorem head?_eq_none_iff (h : ListsInOrder At l) :
    l.head? = none ↔ ∀ path a, ¬ At path a := by
  rw [List.head?_eq_none_iff, h.eq_nil_iff]

/-! ### The ways in which lists are made of others -/

theorem nil (h : ∀ path a, ¬ At path a) : ListsInOrder At [] :=
  ⟨[], rfl, List.Pairwise.nil, by simpa using h⟩

theorem cons (h : ListsInOrder At l) (path : Path) (a : α)
    (hlt : ∀ other b, At other b → path < other) :
    ListsInOrder (fun other b => other = path ∧ b = a ∨ At other b) (a :: l) := by
  obtain ⟨located, rfl, hordered, hmem⟩ := h
  refine ⟨(path, a) :: located, rfl, List.pairwise_cons.2 ⟨?_, hordered⟩, ?_⟩
  · exact fun x hx => hlt x.1 x.2 ((hmem _ _).1 hx)
  · simp [hmem]

theorem filterMap (h : ListsInOrder At l) (f : α → Option β) :
    ListsInOrder (fun path b => ∃ a, At path a ∧ f a = some b) (l.filterMap f) := by
  obtain ⟨located, rfl, hordered, hmem⟩ := h
  refine ⟨located.filterMap fun x => (f x.2).map fun b => (x.1, b), ?_, ?_, ?_⟩
  · simp only [List.map_filterMap, Option.map_map, List.filterMap_map]
    congr 1
    funext x
    simp [Function.comp_def]
  · refine hordered.filterMap _ fun x y hlt x' hx' y' hy' => ?_
    obtain ⟨b, -, rfl⟩ := Option.map_eq_some_iff.1 hx'
    obtain ⟨c, -, rfl⟩ := Option.map_eq_some_iff.1 hy'
    exact hlt
  · intro path b
    simp only [List.mem_filterMap, Option.map_eq_some_iff, Prod.exists, Prod.mk.injEq,
      ← hmem]
    constructor
    · rintro ⟨path, a, ha, b, hb, rfl, rfl⟩
      exact ⟨a, ha, hb⟩
    · rintro ⟨a, ha, hb⟩
      exact ⟨path, a, ha, b, hb, rfl, rfl⟩

theorem map (h : ListsInOrder At l) (f : α → β) :
    ListsInOrder (fun path b => ∃ a, At path a ∧ f a = b) (l.map f) := by
  simpa using h.filterMap fun a => some (f a)

theorem filter (h : ListsInOrder At l) (p : α → Bool) :
    ListsInOrder (fun path a => At path a ∧ p a = true) (l.filter p) := by
  have hfilter := h.filterMap (Option.guard p)
  rw [List.filterMap_eq_filter] at hfilter
  refine hfilter.congr fun path a => ?_
  simp [Option.guard_eq_some_iff]

/-- The things found below others, when these stand equally deep. -/
theorem flatMap {Below : α → Path → β → Prop} (h : ListsInOrder At l) (depth : Nat)
    (hdepth : ∀ path a, At path a → path.length = depth) {f : α → List β}
    (hf : ∀ a ∈ l, ListsInOrder (Below a) (f a)) :
    ListsInOrder (fun path b => ∃ above below a, path = above ++ below ∧ At above a ∧
      Below a below b) (l.flatMap f) := by
  obtain ⟨located, rfl, hordered, hmem⟩ := h
  have hlocated : ∀ a, ∃ below : List (Path × β), a ∈ located.map Prod.snd →
      below.map Prod.snd = f a ∧ below.Pairwise (fun x y => x.1 < y.1) ∧
        ∀ path b, (path, b) ∈ below ↔ Below a path b := by
    intro a
    by_cases ha : a ∈ located.map Prod.snd
    · obtain ⟨below, hbelow⟩ := hf a ha
      exact ⟨below, fun _ => hbelow⟩
    · exact ⟨[], fun h => absurd h ha⟩
  choose below hbelow using hlocated
  have hbelow' (x : Path × α) (hx : x ∈ located) := hbelow x.2 (List.mem_map_of_mem hx)
  refine ⟨located.flatMap fun x => (below x.2).map fun y => (x.1 ++ y.1, y.2), ?_, ?_, ?_⟩
  · rw [List.map_flatMap, List.flatMap_map]
    refine List.flatMap_congr fun x hx => ?_
    rw [List.map_map, ← (hbelow' x hx).1]
    rfl
  · refine List.pairwise_flatMap.2 ⟨fun x hx => ?_, hordered.imp_of_mem fun {x y} hx hy hlt => ?_⟩
    · rw [List.pairwise_map]
      exact (hbelow' x hx).2.1.imp fun hlt => List.append_left_lt hlt
    · intro x' hx' y' hy'
      obtain ⟨x', -, rfl⟩ := List.mem_map.1 hx'
      obtain ⟨y', -, rfl⟩ := List.mem_map.1 hy'
      have hlength : x.1.length = y.1.length :=
        (hdepth _ _ ((hmem _ _).1 hx)).trans (hdepth _ _ ((hmem _ _).1 hy)).symm
      exact append_lt_append hlt hlength _ _
  · intro path b
    simp only [List.mem_flatMap, List.mem_map, Prod.exists, Prod.mk.injEq]
    constructor
    · rintro ⟨above, a, ha, place, b, hb, rfl, rfl⟩
      exact ⟨above, place, a, rfl, (hmem _ _).1 ha, ((hbelow' _ ha).2.2 _ _).1 hb⟩
    · rintro ⟨above, place, a, rfl, ha, hb⟩
      have ha := (hmem _ _).2 ha
      exact ⟨above, a, ha, place, b, ((hbelow' _ ha).2.2 _ _).2 hb, rfl, rfl⟩

/-- The members of a list, at their numbers. -/
theorem of_getElem? (l : List α) :
    ListsInOrder (fun path a => ∃ i, path = [i] ∧ l[i]? = some a) l := by
  refine ⟨l.zipIdx.map fun x => ([x.2], x.1), ?_, ?_, ?_⟩
  · rw [List.map_map]
    exact List.zipIdx_map_fst 0 l
  · rw [List.pairwise_map, List.pairwise_iff_getElem]
    intro i j hi hj hlt
    simpa [List.cons_lt_cons_iff] using hlt
  · intro path a
    simp only [List.mem_map, List.mem_zipIdx_iff_getElem?, Prod.exists, Prod.mk.injEq]
    constructor
    · rintro ⟨a, i, ha, rfl, rfl⟩
      exact ⟨i, rfl, ha⟩
    · rintro ⟨i, rfl, ha⟩
      exact ⟨a, i, ha, rfl, rfl⟩

end ListsInOrder

/-! ## The nodes of a document -/

namespace Node

/-- The node at a place below the node. -/
def descend? : Node → Path → Option Node
  | n, [] => some n
  | n, i :: path => n.children[i]?.bind fun c => c.descend? path

/-- A child with the property, at its place. -/
def ChildAt (p : Node → Bool) (n : Node) (path : Path) (c : Node) : Prop :=
  ∃ i, path = [i] ∧ n.children[i]? = some c ∧ p c = true

variable {n c : Node} {p : Node → Bool} {path : Path}

theorem isElement_of_isNamed {namespaceUri localName : String}
    (h : n.isNamed namespaceUri localName = true) : n.isElement = true := by
  rw [isNamed, Bool.and_eq_true, Bool.and_eq_true] at h
  exact h.1.1

theorem descend?_cons_eq_some_iff {i : Nat} {e : Node} :
    n.descend? (i :: path) = some e ↔
      ∃ c, n.children[i]? = some c ∧ c.descend? path = some e := by
  rw [descend?, Option.bind_eq_some_iff]

/-- A place is reached through the places above it. -/
theorem descend?_append (h : n.descend? path = some c) (rest : Path) :
    n.descend? (path ++ rest) = c.descend? rest := by
  induction path generalizing n with
  | nil =>
    obtain rfl := Option.some.inj h
    rfl
  | cons i path ih =>
    obtain ⟨b, hb, hc⟩ := descend?_cons_eq_some_iff.1 h
    rw [List.cons_append, descend?, hb]
    exact ih hc

theorem ChildAt.holds (h : ChildAt p n path c) : p c = true := by
  obtain ⟨i, -, -, hc⟩ := h
  exact hc

theorem ChildAt.of_holds {q : Node → Bool} (h : ChildAt p n path c) (hc : q c = true) :
    ChildAt q n path c := by
  obtain ⟨i, hpath, hi, -⟩ := h
  exact ⟨i, hpath, hi, hc⟩

theorem ChildAt.length_eq (h : ChildAt p n path c) : path.length = 1 := by
  obtain ⟨i, rfl, -, -⟩ := h
  rfl

theorem ChildAt.descend?_eq (h : ChildAt p n path c) : n.descend? path = some c := by
  obtain ⟨i, rfl, hc, -⟩ := h
  exact descend?_cons_eq_some_iff.2 ⟨c, hc, rfl⟩

theorem listsInOrder_children (p : Node → Bool) (n : Node) :
    ListsInOrder (ChildAt p n) (n.children.filter p) := by
  refine ((ListsInOrder.of_getElem? n.children).filter p).congr fun path c => ?_
  simp only [ChildAt, ← and_assoc, exists_and_right]

theorem elementsOfAll_eq_flatMap (ns : List Node) : elementsOfAll ns = ns.flatMap elements := by
  induction ns with
  | nil => rfl
  | cons n rest ih => rw [elementsOfAll, ih, List.flatMap_cons]

/-- The elements of trees, at their places below the trees, when each tree is listed so. -/
theorem listsInOrder_elementsOfAll {ns : List Node}
    (h : ∀ n ∈ ns, ListsInOrder (fun path e => n.descend? path = some e ∧ e.isElement = true)
      n.elements) :
    ListsInOrder (fun path e => ∃ i rest n, path = i :: rest ∧ ns[i]? = some n ∧
      n.descend? rest = some e ∧ e.isElement = true) (elementsOfAll ns) := by
  rw [elementsOfAll_eq_flatMap]
  refine ((ListsInOrder.of_getElem? ns).flatMap 1 ?_ h).congr fun path e => ?_
  · rintro path n ⟨i, rfl, -⟩
    rfl
  · constructor
    · rintro ⟨_, rest, n, rfl, ⟨i, rfl, hn⟩, he⟩
      exact ⟨i, rest, n, rfl, hn, he⟩
    · rintro ⟨i, rest, n, rfl, hn, he⟩
      exact ⟨[i], rest, n, rfl, ⟨i, rfl, hn⟩, he⟩

/-- A traversal lists the elements from the node on, the node first if it is one. -/
theorem listsInOrder_elements (n : Node) :
    ListsInOrder (fun path e => n.descend? path = some e ∧ e.isElement = true) n.elements := by
  match n with
  | element name attributes cs =>
    have hinside := listsInOrder_elementsOfAll fun c (_ : c ∈ cs) => listsInOrder_elements c
    refine (hinside.cons [] (element name attributes cs) ?_).congr fun path e => ?_
    · rintro path e ⟨i, rest, n, rfl, -⟩
      exact List.nil_lt_cons i rest
    · cases path with
      | nil =>
        simp only [true_and, List.nil_eq, reduceCtorEq, false_and, exists_false, or_false,
          descend?, Option.some.injEq]
        exact ⟨fun h => ⟨h.symm, h ▸ rfl⟩, fun h => h.1.symm⟩
      | cons i rest =>
        simp only [reduceCtorEq, false_and, false_or, List.cons.injEq, descend?_cons_eq_some_iff]
        constructor
        · rintro ⟨_, _, c, ⟨rfl, rfl⟩, hc, he, helement⟩
          exact ⟨⟨c, hc, he⟩, helement⟩
        · rintro ⟨⟨c, hc, he⟩, helement⟩
          exact ⟨i, rest, c, ⟨rfl, rfl⟩, hc, he, helement⟩
  | text _ | comment _ | instruction _ _ =>
    refine ListsInOrder.nil fun path e => ?_
    cases path with
    | nil => rintro ⟨⟨⟩, ⟨⟩⟩
    | cons i rest => simp [descend?, children]

end Node

namespace Document

/-- The node at a place of the document. -/
def nodeAt? (d : Document) : Path → Option Node
  | [] => none
  | i :: path => d.nodes[i]?.bind fun n => n.descend? path

/-- The element at a place of the document. -/
def ElementAt (d : Document) (path : Path) (e : Node) : Prop :=
  d.nodeAt? path = some e ∧ e.isElement = true

variable {d : Document} {path : Path} {n : Node}

theorem nodeAt?_cons_eq_some_iff {i : Nat} :
    d.nodeAt? (i :: path) = some n ↔
      ∃ top, d.nodes[i]? = some top ∧ top.descend? path = some n := by
  rw [nodeAt?, Option.bind_eq_some_iff]

theorem nodeAt?_append (h : d.nodeAt? path = some n) (rest : Path) :
    d.nodeAt? (path ++ rest) = n.descend? rest := by
  cases path with
  | nil => cases h
  | cons i path =>
    obtain ⟨top, htop, hn⟩ := nodeAt?_cons_eq_some_iff.1 h
    rw [List.cons_append, nodeAt?, htop]
    exact Node.descend?_append hn rest

/-- **A document lists its elements in document order.** -/
theorem listsInOrder_elements (d : Document) : ListsInOrder d.ElementAt d.elements := by
  refine (Node.listsInOrder_elementsOfAll fun n (_ : n ∈ d.nodes) =>
    n.listsInOrder_elements).congr fun path e => ?_
  cases path with
  | nil => simp [ElementAt, nodeAt?]
  | cons i rest =>
    simp only [ElementAt, nodeAt?_cons_eq_some_iff, List.cons.injEq]
    constructor
    · rintro ⟨_, _, n, ⟨rfl, rfl⟩, hn, he, helement⟩
      exact ⟨⟨n, hn, he⟩, helement⟩
    · rintro ⟨⟨n, hn, he⟩, helement⟩
      exact ⟨i, rest, n, ⟨rfl, rfl⟩, hn, he, helement⟩

end Document

end AdvancedSignature.Xml
