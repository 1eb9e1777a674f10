import AdvancedSignature.Proofs.Xml.Identifier

/-!
# Parsed documents

No element of a parsed document has two attributes of one name.  The assembly of the tree keeps the
names distinct in the nodes that are finished and in the elements that are open
(`Assembly.IsSound`), whatever the tokens are and however entities are nested.  So an element
carries exactly the identifiers that are written on it (`Document.carriesAt_iff_of_parse`).
-/

namespace AdvancedSignature.Xml

/-- What holds at the start of a fold and is kept by each step holds at its end. -/
theorem of_foldlM_eq_some {α β : Type} {P : β → Prop} {f : β → α → Option β}
    (hf : ∀ b a b', P b → f b a = some b' → P b') {l : List α} {b b' : β} (hb : P b)
    (h : l.foldlM f b = some b') : P b' := by
  induction l generalizing b with
  | nil =>
    obtain rfl := Option.some.inj h
    exact hb
  | cons a rest ih =>
    rw [List.foldlM_cons] at h
    obtain ⟨c, hc, h⟩ := Option.bind_eq_some_iff.1 h
    exact ih (hf b a c hb hc) h

/-- No two of the attributes have one name. -/
def HasDistinctNames (attributes : List Attribute) : Prop :=
  (attributes.map Attribute.name).Nodup

theorem hasDistinctNames_nil : HasDistinctNames [] := List.nodup_nil

theorem HasDistinctNames.append_singleton {attributes : List Attribute}
    (h : HasDistinctNames attributes) {b : Attribute} (hb : ∀ c ∈ attributes, c.name ≠ b.name) :
    HasDistinctNames (attributes ++ [b]) := by
  unfold HasDistinctNames at h ⊢
  rw [List.map_append]
  refine List.nodup_append.2 ⟨h, by simp, ?_⟩
  rintro _ hmem _ hname rfl
  obtain ⟨c, hc, rfl⟩ := List.mem_map.1 hmem
  exact hb c hc (by simpa using hname)

namespace Node

/-- The attributes of an element. -/
def attributes : Node → List Attribute
  | element _ attributes _ => attributes
  | _ => []

/-- No element of the tree has two attributes of one name. -/
def HasDistinctAttributes (n : Node) : Prop := ∀ e ∈ n.elements, HasDistinctNames e.attributes

theorem hasDistinctAttributes_element_iff {name : ExpandedName} {attributes : List Attribute}
    {cs : List Node} :
    (element name attributes cs).HasDistinctAttributes ↔
      HasDistinctNames attributes ∧ ∀ c ∈ cs, c.HasDistinctAttributes := by
  unfold HasDistinctAttributes
  rw [elements, elementsOfAll_eq_flatMap, List.forall_mem_cons]
  refine and_congr_right fun _ => ?_
  simp only [List.mem_flatMap]
  exact ⟨fun h c hc e he => h e ⟨c, hc, he⟩, fun h e ⟨c, hc, he⟩ => h c hc e he⟩

theorem hasDistinctAttributes_text (content : String) : (text content).HasDistinctAttributes :=
  List.forall_mem_nil _

/-- With distinct names an attribute is what the lookup of its name finds. -/
theorem attribute?_eq_some_iff {n : Node} (h : HasDistinctNames n.attributes)
    {name value : String} :
    n.attribute? name = some value ↔ ⟨⟨none, name⟩, value⟩ ∈ n.attributes := by
  cases n with
  | element elementName as cs =>
    have hnames : (as.map Attribute.name).Nodup := h
    simp only [attribute?, Option.map_eq_some_iff, attributes, find?_key_eq_some_iff hnames]
    constructor
    · rintro ⟨b, ⟨hb, hname⟩, rfl⟩
      exact hname ▸ hb
    · exact fun hmem => ⟨_, ⟨hmem, rfl⟩, rfl⟩
  | text _ | comment _ | instruction _ _ => exact iff_of_false nofun (List.not_mem_nil)

end Node

/-! ## Trees in the making -/

/-- The open element becomes one without two attributes of one name. -/
structure OpenElement.IsSound (e : OpenElement) : Prop where
  attributes : HasDistinctNames e.attributes
  children : ∀ n ∈ e.children, n.HasDistinctAttributes

namespace Assembly

variable {a a' : Assembly} {table : EntityTable} {nested : Bool}

/-- Neither a finished node nor an open element has two attributes of one name. -/
structure IsSound (a : Assembly) : Prop where
  outside : ∀ n ∈ a.outside, n.HasDistinctAttributes
  opened : ∀ e ∈ a.openElements, e.IsSound

theorem isSound_empty : IsSound {} := ⟨by simp, by simp⟩

/-! ### Nodes -/

theorem IsSound.updateNodes (h : a.IsSound) {f : List Node → List Node}
    (hf : ∀ ns : List Node, (∀ n ∈ ns, n.HasDistinctAttributes) →
      ∀ n ∈ f ns, n.HasDistinctAttributes) : (a.updateNodes f).IsSound := by
  unfold Assembly.updateNodes
  split
  · next e others hopen =>
    obtain ⟨he, hothers⟩ := List.forall_mem_cons.1 (hopen ▸ h.opened)
    exact ⟨h.outside, List.forall_mem_cons.2 ⟨⟨he.attributes, hf _ he.children⟩, hothers⟩⟩
  · exact ⟨hf _ h.outside, h.opened⟩

theorem IsSound.addNode (h : a.IsSound) {n : Node} (hn : n.HasDistinctAttributes) :
    (a.addNode n).IsSound :=
  h.updateNodes fun _ hns => List.forall_mem_cons.2 ⟨hn, hns⟩

theorem IsSound.addText (h : a.IsSound) (content : List Char) : (a.addText content).IsSound := by
  unfold Assembly.addText
  split
  · have hkept : IsSound { a with interrupted := false } := ⟨h.outside, h.opened⟩
    exact hkept.addNode (Node.hasDistinctAttributes_text _)
  · refine h.updateNodes fun ns hns => ?_
    unfold joinText
    split
    · exact List.forall_mem_cons.2
        ⟨Node.hasDistinctAttributes_text _, (List.forall_mem_cons.1 hns).2⟩
    · exact List.forall_mem_cons.2 ⟨Node.hasDistinctAttributes_text _, hns⟩

/-! ### Tags -/

/-- The attributes of an element are taken in only while their names are distinct. -/
theorem hasDistinctNames_of_attributes? {scope : Scope} {written : List (QualifiedName × String)}
    {attributes : List Attribute} (h : attributes? scope written = some attributes) :
    HasDistinctNames attributes := by
  refine of_foldlM_eq_some (fun found w found' hfound hw => ?_) hasDistinctNames_nil h
  obtain ⟨name, -, hname⟩ := Option.bind_eq_some_iff.1 hw
  split_ifs at hname with hmem
  obtain rfl := Option.some.inj hname
  refine hfound.append_singleton fun c hc hsame => hmem ?_
  exact List.any_eq_true.2 ⟨c, hc, beq_iff_eq.2 hsame⟩

/-- What is read of a start tag changes nothing in the tree. -/
theorem addAttribute_eq_some {room : Nat} {written : WrittenAttribute}
    (h : a.addAttribute table room nested written = some a') :
    a'.outside = a.outside ∧ a'.openElements = a.openElements := by
  obtain ⟨⟨chars, references⟩, -, h⟩ := Option.bind_eq_some_iff.1 h
  dsimp only at h
  split_ifs at h
  · unfold declareQualifier at h
    split_ifs at h <;> cases h <;> exact ⟨rfl, rfl⟩
  · unfold declareDefault at h
    split_ifs at h
    cases h
    exact ⟨rfl, rfl⟩
  · cases h
    exact ⟨rfl, rfl⟩

theorem IsSound.addAttribute (ha : a.IsSound) {room : Nat} {written : WrittenAttribute}
    (h : a.addAttribute table room nested written = some a') : a'.IsSound := by
  obtain ⟨houtside, hopen⟩ := addAttribute_eq_some h
  exact ⟨houtside ▸ ha.outside, hopen ▸ ha.opened⟩

theorem isSound_of_element? {name : QualifiedName} {e : OpenElement}
    (h : a.element? name = some e) : e.IsSound := by
  obtain ⟨attributes, hattributes, h⟩ := Option.bind_eq_some_iff.1 h
  obtain ⟨expanded, -, h⟩ := Option.bind_eq_some_iff.1 h
  obtain rfl := Option.some.inj h
  exact ⟨hasDistinctNames_of_attributes? hattributes, List.forall_mem_nil _⟩

theorem IsSound.startTag (ha : a.IsSound) {room : Nat} {name : QualifiedName}
    {attributes : List WrittenAttribute} {ending : TagEnd}
    (h : a.startTag table room nested name attributes ending = some a') : a'.IsSound := by
  unfold Assembly.startTag at h
  split_ifs at h
  obtain ⟨b, hb, h⟩ := Option.bind_eq_some_iff.1 h
  have hstart : IsSound { a with tagSeen := true } := ⟨ha.outside, ha.opened⟩
  have hb : b.IsSound := of_foldlM_eq_some (fun c w c' hc => hc.addAttribute) hstart hb
  cases ending with
  | cutOff =>
    obtain rfl := Option.some.inj h
    exact ⟨hb.outside, hb.opened⟩
  | empty =>
    obtain ⟨e, he, h⟩ := Option.bind_eq_some_iff.1 h
    obtain rfl := Option.some.inj h
    have hread : IsSound { b with attributes := [], declared := [] } := ⟨hb.outside, hb.opened⟩
    exact hread.addNode (Node.hasDistinctAttributes_element_iff.2
      ⟨(isSound_of_element? he).attributes, List.forall_mem_nil _⟩)
  | opening =>
    obtain ⟨e, he, h⟩ := Option.bind_eq_some_iff.1 h
    obtain rfl := Option.some.inj h
    exact ⟨hb.outside, List.forall_mem_cons.2 ⟨isSound_of_element? he, hb.opened⟩⟩

theorem IsSound.endTag (ha : a.IsSound) {name : QualifiedName} (h : a.endTag name = some a') :
    a'.IsSound := by
  unfold Assembly.endTag at h
  split_ifs at h
  obtain ⟨_, -, h⟩ := Option.bind_eq_some_iff.1 h
  split at h
  · cases h
  · next e others hopen =>
    split_ifs at h
    obtain rfl := Option.some.inj h
    obtain ⟨he, hothers⟩ := List.forall_mem_cons.1 (hopen ▸ ha.opened)
    have hclosed : IsSound { a with attributes := [], declared := [], openElements := others } :=
      ⟨ha.outside, hothers⟩
    refine hclosed.addNode (Node.hasDistinctAttributes_element_iff.2 ⟨he.attributes, ?_⟩)
    simpa using he.children

/-! ### Text and tokens -/

theorem IsSound.flush (h : a.IsSound) (buffer : List Char) : (a.flush buffer).IsSound := by
  unfold Assembly.flush
  split
  · exact h
  · exact h.addText _

/-- Text is taken in piece by piece, the replacement texts in it as `expand` does. -/
theorem IsSound.addChunks {expand : List Char → Assembly → Option Assembly}
    (hexpand : ∀ replacement b b', IsSound b → expand replacement b = some b' → b'.IsSound)
    {chunks : List Chunk} {buffer : List Char} {literally : Bool} (ha : a.IsSound)
    (h : addChunks table expand nested chunks buffer literally a = some a') : a'.IsSound := by
  induction chunks generalizing a buffer literally with
  | nil =>
    obtain rfl := Option.some.inj h
    exact ha.flush buffer
  | cons chunk rest ih =>
    cases chunk with
    | literal c => exact ih ha h
    | character c =>
      unfold Assembly.addChunks at h
      split_ifs at h
      · exact ih ha h
      · exact ih ha h
    | entity name =>
      obtain ⟨replacement, -, h⟩ := Option.bind_eq_some_iff.1 h
      obtain ⟨references, -, h⟩ := Option.bind_eq_some_iff.1 h
      obtain ⟨b, hb, h⟩ := Option.bind_eq_some_iff.1 h
      have hflushed := ha.flush buffer
      have hb : b.IsSound := by
        refine hexpand _ _ _ ?_ hb
        exact ⟨hflushed.outside, hflushed.opened⟩
      refine ih ?_ h
      split
      · exact hb
      · exact ⟨hb.outside, hb.opened⟩

theorem IsSound.addToken {expand : List Char → Assembly → Option Assembly}
    (hexpand : ∀ replacement b b', IsSound b → expand replacement b = some b' → b'.IsSound)
    {room : Nat} (ha : a.IsSound) {token : Token}
    (h : a.addToken table expand room nested token = some a') : a'.IsSound := by
  cases token with
  | startTag name attributes ending => exact ha.startTag h
  | endTag name => exact ha.endTag h
  | text written =>
    obtain ⟨chunks, -, h⟩ := Option.bind_eq_some_iff.1 h
    exact ha.addChunks hexpand h
  | cdata content =>
    obtain rfl := Option.some.inj h
    exact ha.addText _
  | comment content | instruction target content =>
    obtain rfl := Option.some.inj h
    exact ha.addNode (List.forall_mem_nil _)

/-- By induction on how deep entities may be nested: each level hands the one below to the tokens
of the replacement text. -/
theorem IsSound.expand {room : Nat} (ha : a.IsSound) {replacement : List Char}
    (h : expand table room replacement a = some a') : a'.IsSound := by
  induction room generalizing a a' replacement with
  | zero => cases h
  | succ room ih =>
    obtain ⟨⟨tokens, _⟩, -, h⟩ := Option.bind_eq_some_iff.1 h
    obtain ⟨b, hb, h⟩ := Option.bind_eq_some_iff.1 h
    obtain rfl := Option.some.inj h
    have hstart : IsSound { a with tagSeen := false } := ⟨ha.outside, ha.opened⟩
    have hb : b.IsSound := of_foldlM_eq_some
      (fun c token c' hc => hc.addToken fun _ _ _ hd => ih hd) hstart hb
    exact ⟨hb.outside, hb.opened⟩

theorem hasDistinctAttributes_of_nodes? {tokens : List Token} {nodes : List Node}
    (h : nodes? table tokens = some nodes) : ∀ n ∈ nodes, n.HasDistinctAttributes := by
  obtain ⟨a, ha, h⟩ := Option.bind_eq_some_iff.1 h
  split_ifs at h
  obtain rfl := Option.some.inj h
  have ha : a.IsSound := of_foldlM_eq_some
    (fun c token c' hc => hc.addToken fun _ _ _ hd => hd.expand) isSound_empty ha
  simpa using ha.outside

end Assembly

/-! ## Documents -/

namespace Document

variable {text : String} {d : Document}

/-- **No element of a parsed document has two attributes of one name.** -/
theorem hasDistinctNames_of_parse (h : parse text = .ok d) {e : Node} (he : e ∈ d.elements) :
    HasDistinctNames e.attributes := by
  unfold parse at h
  split at h
  · next nodes hnodes =>
    obtain rfl := Except.ok.inj h
    obtain ⟨⟨⟨entities, tokens⟩, _⟩, -, hnodes⟩ := Option.bind_eq_some_iff.1 hnodes
    rw [elements, Node.elementsOfAll_eq_flatMap] at he
    obtain ⟨n, hn, he⟩ := List.mem_flatMap.1 he
    exact Assembly.hasDistinctAttributes_of_nodes? hnodes n hn e he
  · cases h

/-- **In a parsed document the identifiers are the attributes with one of the three names.** -/
theorem carriesAt_iff_of_parse (h : parse text = .ok d) {path : Path} {name value : String} :
    d.CarriesAt path name value ↔ ∃ e, d.ElementAt path e ∧
      name ∈ AttributeName.identifiers ∧ ⟨⟨none, name⟩, value⟩ ∈ e.attributes := by
  refine exists_congr fun e => and_congr_right fun he => and_congr_right fun _ => ?_
  have hmem : e ∈ d.elements := d.listsInOrder_elements.mem_iff.2 ⟨path, he⟩
  exact Node.attribute?_eq_some_iff (hasDistinctNames_of_parse h hmem)

end Document

end AdvancedSignature.Xml
