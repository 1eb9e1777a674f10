import AdvancedSignature.Proofs.Xml.Identifier

/-!
# Documents without comments

A comment is markup that means nothing, but it divides the text around it.  Taking the comments out
of a tree leaves the elements with their names and attributes where they are, one for one, and joins
text that only comments divided.

* `Node.withoutComments` and `Document.withoutComments` take the comments out.
* `Node.filter_withoutCommentsAll` and `Node.elements_withoutComments` say that child elements and
  elements at any depth are found as before; what is found is without comments.
* `Document.map_value_idMap` says that only the values of identifiers decide whether elements can be
  found by them.
-/

namespace AdvancedSignature.Xml

namespace Node

/-- Whether the node is a comment. -/
def isComment : Node → Bool
  | comment _ => true
  | _ => false

/-- Puts text in front of nodes; it joins text that they begin with. -/
def joinFront (content : String) : List Node → List Node
  | text after :: rest => text (content ++ after) :: rest
  | nodes => text content :: nodes

mutual

/-- The tree without its comments. -/
def withoutComments : Node → Node
  | element name attributes children =>
      element name attributes (withoutCommentsAll children)
  | n => n

/-- The trees without their comments.  Text that only comments divide is joined; text that nothing
divides is left as it is. -/
def withoutCommentsAll : List Node → List Node
  | [] => []
  | comment _ :: rest => withoutCommentsAll rest
  | text content :: rest =>
      if rest.head?.any isComment then joinFront content (withoutCommentsAll rest)
      else text content :: withoutCommentsAll rest
  | n :: rest => withoutComments n :: withoutCommentsAll rest

end

variable {p : Node → Bool}

@[simp] theorem withoutCommentsAll_element (name : ExpandedName) (attributes : List Attribute)
    (children rest : List Node) :
    withoutCommentsAll (element name attributes children :: rest) =
      (element name attributes children).withoutComments :: withoutCommentsAll rest := rfl

@[simp] theorem withoutCommentsAll_comment (content : String) (rest : List Node) :
    withoutCommentsAll (comment content :: rest) = withoutCommentsAll rest := rfl

@[simp] theorem withoutCommentsAll_instruction (target content : String) (rest : List Node) :
    withoutCommentsAll (instruction target content :: rest) =
      instruction target content :: withoutCommentsAll rest := rfl

theorem withoutCommentsAll_text (content : String) (rest : List Node) :
    withoutCommentsAll (text content :: rest) =
      if rest.head?.any isComment then joinFront content (withoutCommentsAll rest)
      else text content :: withoutCommentsAll rest := rfl

/-! ### What a node is -/

@[simp] theorem isElement_withoutComments (n : Node) :
    n.withoutComments.isElement = n.isElement := by
  cases n <;> rfl

@[simp] theorem localName_withoutComments (n : Node) :
    n.withoutComments.localName = n.localName := by
  cases n <;> rfl

@[simp] theorem namespaceUri_withoutComments (n : Node) :
    n.withoutComments.namespaceUri = n.namespaceUri := by
  cases n <;> rfl

@[simp] theorem attribute?_withoutComments (n : Node) (name : String) :
    n.withoutComments.attribute? name = n.attribute? name := by
  cases n <;> rfl

@[simp] theorem children_withoutComments (n : Node) :
    n.withoutComments.children = withoutCommentsAll n.children := by
  cases n <;> rfl

@[simp] theorem isNamed_withoutComments (namespaceUri localName : String) (n : Node) :
    n.withoutComments.isNamed namespaceUri localName = n.isNamed namespaceUri localName := by
  simp [isNamed]

/-! ### What is found in a node -/

/-- The property is one of elements, and comments do not matter to it. -/
structure IsOfElements (p : Node → Bool) : Prop where
  isElement : ∀ n, p n = true → n.isElement = true
  apply_withoutComments : ∀ n, p n.withoutComments = p n

theorem isOfElements_isElement : IsOfElements isElement :=
  ⟨fun _ h => h, isElement_withoutComments⟩

theorem isOfElements_isNamed (namespaceUri localName : String) :
    IsOfElements (isNamed namespaceUri localName) :=
  ⟨fun _ => isElement_of_isNamed, isNamed_withoutComments namespaceUri localName⟩

theorem IsOfElements.not_apply (hp : IsOfElements p) {n : Node} (hn : n.isElement = false) :
    ¬ p n = true :=
  fun h => Bool.false_ne_true (hn.symm.trans (hp.isElement n h))

theorem IsOfElements.filter_joinFront (hp : IsOfElements p) (content : String) (ns : List Node) :
    (joinFront content ns).filter p = ns.filter p := by
  have htext (content : String) : ¬ p (text content) = true := hp.not_apply rfl
  unfold joinFront
  split
  · rw [List.filter_cons_of_neg (htext _), List.filter_cons_of_neg (htext _)]
  · rw [List.filter_cons_of_neg (htext _)]

/-- The elements among the nodes are found as before. -/
theorem IsOfElements.filter_withoutCommentsAll (hp : IsOfElements p) (ns : List Node) :
    (withoutCommentsAll ns).filter p = (ns.filter p).map withoutComments := by
  induction ns with
  | nil => rfl
  | cons n rest ih =>
    cases n with
    | element name attributes children =>
      rw [withoutCommentsAll_element, List.filter_cons, List.filter_cons, hp.apply_withoutComments,
        ih]
      split <;> rfl
    | text content =>
      have htext : ¬ p (text content) = true := hp.not_apply rfl
      rw [withoutCommentsAll_text, List.filter_cons_of_neg htext, ← ih]
      split
      · exact hp.filter_joinFront content _
      · rw [List.filter_cons_of_neg htext]
    | comment content =>
      have hcomment : ¬ p (comment content) = true := hp.not_apply rfl
      rw [withoutCommentsAll_comment, List.filter_cons_of_neg hcomment, ih]
    | instruction target content =>
      have hinstruction : ¬ p (instruction target content) = true := hp.not_apply rfl
      rw [withoutCommentsAll_instruction, List.filter_cons_of_neg hinstruction,
        List.filter_cons_of_neg hinstruction, ih]

theorem IsOfElements.filter_children (hp : IsOfElements p) (n : Node) :
    n.withoutComments.children.filter p = (n.children.filter p).map withoutComments := by
  rw [children_withoutComments, hp.filter_withoutCommentsAll]

theorem IsOfElements.find?_children (hp : IsOfElements p) (n : Node) :
    n.withoutComments.children.find? p = (n.children.find? p).map withoutComments := by
  rw [← List.head?_filter, ← List.head?_filter, hp.filter_children, List.head?_map]

/-! ### Elements at any depth -/

theorem elementsOfAll_joinFront (content : String) (ns : List Node) :
    elementsOfAll (joinFront content ns) = elementsOfAll ns := by
  unfold joinFront
  split <;> simp [elementsOfAll, elements]

theorem elementsOfAll_withoutCommentsAll {ns : List Node}
    (h : ∀ n ∈ ns, n.withoutComments.elements = n.elements.map withoutComments) :
    elementsOfAll (withoutCommentsAll ns) = (elementsOfAll ns).map withoutComments := by
  induction ns with
  | nil => rfl
  | cons n rest ih =>
    obtain ⟨hn, hrest⟩ := List.forall_mem_cons.1 h
    rw [elementsOfAll, List.map_append, ← ih hrest, ← hn]
    cases n with
    | element | instruction => rfl
    | comment => rfl
    | text content =>
      rw [withoutCommentsAll_text]
      split
      · exact elementsOfAll_joinFront content _
      · rfl

/-- The elements of a tree are found as before. -/
theorem elements_withoutComments (n : Node) :
    n.withoutComments.elements = n.elements.map withoutComments := by
  match n with
  | element name attributes cs =>
    have hinside := elementsOfAll_withoutCommentsAll fun c (_ : c ∈ cs) =>
      elements_withoutComments c
    rw [withoutComments, elements, elements, hinside]
    rfl
  | text _ | comment _ | instruction _ _ => rfl

/-! ### Text -/

/-- Without comments among the children nothing is joined. -/
theorem withoutCommentsAll_eq_map {ns : List Node} (h : ∀ n ∈ ns, n.isComment = false) :
    withoutCommentsAll ns = ns.map withoutComments := by
  induction ns with
  | nil => rfl
  | cons n rest ih =>
    obtain ⟨hn, hrest⟩ := List.forall_mem_cons.1 h
    rw [List.map_cons, ← ih hrest]
    cases n with
    | element | instruction => rfl
    | comment => cases hn
    | text content =>
      have hnext : rest.head?.any isComment = false := by
        cases rest with
        | nil => rfl
        | cons next _ => exact hrest next List.mem_cons_self
      rw [withoutCommentsAll_text, if_neg (by simp [hnext])]
      rfl

/-- The text of an element that has no comment among its children stays. -/
theorem text?_withoutComments {n : Node} (h : ∀ c ∈ n.children, c.isComment = false) :
    n.withoutComments.text? = n.text? := by
  cases n with
  | element name attributes children =>
    have hchildren : withoutCommentsAll children = children.map withoutComments :=
      withoutCommentsAll_eq_map h
    rw [withoutComments, hchildren]
    cases children with
    | nil => rfl
    | cons c rest => cases c <;> rfl
  | text _ | comment _ | instruction _ _ => rfl

end Node

namespace Document

/-- The document without its comments. -/
def withoutComments (d : Document) : Document :=
  { d with nodes := Node.withoutCommentsAll d.nodes }

theorem elements_withoutComments (d : Document) :
    d.withoutComments.elements = d.elements.map Node.withoutComments :=
  Node.elementsOfAll_withoutCommentsAll fun n _ => n.elements_withoutComments

theorem elementsNamed_withoutComments (d : Document) (namespaceUri localName : String) :
    d.withoutComments.elementsNamed namespaceUri localName =
      (d.elementsNamed namespaceUri localName).map Node.withoutComments := by
  rw [elementsNamed, elementsNamed, elements_withoutComments, List.filter_map]
  congr 1
  refine List.filter_congr fun n _ => ?_
  exact Node.isNamed_withoutComments namespaceUri localName n

/-! ### Identifiers -/

/-- Takes in the value of an identifier, unless it is there. -/
def insertValue (seen : List String) (value : String) : Except Error (List String) :=
  if value ∈ seen then .error (.xmlParse (.duplicateId value)) else .ok (seen ++ [value])

/-- Whether elements can be found by identifiers depends on the values of these only. -/
theorem map_value_idMap (d : Document) :
    d.idMap.map (List.map Identified.value) =
      (d.elements.flatMap identifierValues).foldlM insertValue [] := by
  have hstep (seen : List String) (value : String) : insertValue seen value =
      okUnless (repeatFault? (fun v => v) (fun v => .xmlParse (.duplicateId v)) seen value)
        (seen ++ [value]) := by
    by_cases h : value ∈ seen <;> simp [insertValue, repeatFault?, h]
  rw [← map_value_identifiers, foldlM_eq_okUnless hstep, firstFault?_repeatFault?_map, idMap_eq,
    map_okUnless]
  rfl

theorem map_value_idMap_withoutComments (d : Document) :
    d.withoutComments.idMap.map (List.map Identified.value) =
      d.idMap.map (List.map Identified.value) := by
  have hvalues (e : Node) : identifierValues e.withoutComments = identifierValues e :=
    List.filterMap_congr fun name _ => e.attribute?_withoutComments name
  rw [map_value_idMap, map_value_idMap, elements_withoutComments, List.flatMap_map]
  simp only [hvalues]

end Document

end AdvancedSignature.Xml
