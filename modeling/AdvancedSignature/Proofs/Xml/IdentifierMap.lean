import AdvancedSignature.Proofs.Xml.Parsed
import Mathlib.Data.Prod.Lex

/-!
# The map of identifiers

Identifiers are read element by element in document order, and on an element in the order of the
names (`readingOrder`).  An element is told by its number, which counts the elements before it
(`Document.NumberedAt`).

* `Document.exists_occurrences` says what the list of the identifiers is: all that is carried
  anywhere in the document, once for each occurrence and in the order in which it is read.
* `Document.MapsIdentifiers` describes the map of a document in which no identifier stands twice: it
  leads from each of them to the one element that carries it.
* `Document.IsFirstRepeatAt` says which identifier any other document is refused for.
* `Document.idMap_isExact` puts these together.
-/

namespace AdvancedSignature.Xml

/-- A member of a list has as many members before it as its number says. -/
theorem getElem?_eq_some_iff_split {α : Type} {l : List α} {number : ℕ} {a : α} :
    l[number]? = some a ↔ ∃ before after, l = before ++ a :: after ∧ before.length = number := by
  constructor
  · intro h
    obtain ⟨hlt, rfl⟩ := List.getElem?_eq_some_iff.1 h
    refine ⟨l.take number, l.drop (number + 1), ?_, List.length_take_of_le hlt.le⟩
    rw [List.getElem_cons_drop, List.take_append_drop]
  · rintro ⟨before, after, rfl, rfl⟩
    simp

/-- The order in which identifiers are read: by the elements, and on an element by the names. -/
def readingOrder (path : Path) (name : String) : Path ×ₗ ℕ :=
  toLex (path, AttributeName.identifiers.idxOf name)

theorem readingOrder_lt_iff {path other : Path} {name name' : String} :
    readingOrder path name < readingOrder other name' ↔ path < other ∨ path = other ∧
      AttributeName.identifiers.idxOf name < AttributeName.identifiers.idxOf name' :=
  Prod.Lex.toLex_lt_toLex

/-- An identifier with the place and the name under which it is read. -/
structure Occurrence where
  path : Path
  name : String
  identifier : Identified

namespace Occurrence

/-- When the identifier is read. -/
def place (o : Occurrence) : Path ×ₗ ℕ := readingOrder o.path o.name

/-- The text of the identifier. -/
def value (o : Occurrence) : String := o.identifier.value

/-- What an element carries, given its place and its number. -/
def ofElement (path : Path) (number : ℕ) (e : Node) : List Occurrence :=
  AttributeName.identifiers.filterMap fun name =>
    (e.attribute? name).map fun value => ⟨path, name, value, number, e⟩

variable {path : Path} {number : ℕ} {e : Node}

theorem map_identifier_ofElement :
    (ofElement path number e).map identifier = Document.identifiersOf e number := by
  simp [ofElement, Document.identifiersOf, List.map_filterMap, Function.comp_def]

theorem mem_ofElement_iff {o : Occurrence} :
    o ∈ ofElement path number e ↔ o.path = path ∧ o.name ∈ AttributeName.identifiers ∧
      e.attribute? o.name = some o.value ∧ o.identifier.position = number ∧
        o.identifier.element = e := by
  obtain ⟨place, name, value, position, element⟩ := o
  simp only [ofElement, Occurrence.value, List.mem_filterMap, Option.map_eq_some_iff, mk.injEq,
    Identified.mk.injEq]
  constructor
  · rintro ⟨_, hname, _, hvalue, rfl, rfl, rfl, rfl, rfl⟩
    exact ⟨rfl, hname, hvalue, rfl, rfl⟩
  · rintro ⟨rfl, hname, hvalue, rfl, rfl⟩
    exact ⟨name, hname, value, hvalue, rfl, rfl, rfl, rfl, rfl⟩

/-- On an element the names decide what is read first. -/
theorem pairwise_ofElement : (ofElement path number e).Pairwise fun x y => x.place < y.place := by
  have hnames : AttributeName.identifiers.Pairwise fun name name' =>
      AttributeName.identifiers.idxOf name < AttributeName.identifiers.idxOf name' := by decide
  refine hnames.filterMap _ fun name name' hlt x hx y hy => ?_
  obtain ⟨_, -, rfl⟩ := Option.map_eq_some_iff.1 hx
  obtain ⟨_, -, rfl⟩ := Option.map_eq_some_iff.1 hy
  exact readingOrder_lt_iff.2 (Or.inr ⟨rfl, hlt⟩)

end Occurrence

namespace Document

variable {d : Document} {path : Path} {name value : String}

/-! ## The numbers of the elements -/

/-- So many elements stand before the place. -/
def NumberedAt (d : Document) (path : Path) (number : ℕ) : Prop :=
  ∃ before, ListsInOrder (fun other e => d.ElementAt other e ∧ other < path) before ∧
    before.length = number

theorem NumberedAt.unique {number number' : ℕ} (h : d.NumberedAt path number)
    (h' : d.NumberedAt path number') : number = number' := by
  obtain ⟨before, hbefore, rfl⟩ := h
  obtain ⟨before', hbefore', rfl⟩ := h'
  rw [hbefore.unique hbefore']

theorem ElementAt.unique {e f : Node} (he : d.ElementAt path e) (hf : d.ElementAt path f) :
    e = f :=
  Option.some.inj (he.1.symm.trans hf.1)

/-- In a list of the elements at their places, what stands before one gives its number. -/
theorem numberedAt_of_split {before after : List (Path × Node)} {e : Node}
    (hordered : (before ++ (path, e) :: after).Pairwise fun x y => x.1 < y.1)
    (hmem : ∀ other f, (other, f) ∈ before ++ (path, e) :: after ↔ d.ElementAt other f) :
    d.NumberedAt path before.length := by
  refine ⟨before.map Prod.snd, ⟨before, rfl, ?_, fun other f => ?_⟩, List.length_map _⟩
  · exact (List.pairwise_append.1 hordered).1
  · rw [mem_before_iff hordered, hmem]

theorem exists_numberedAt {e : Node} (he : d.ElementAt path e) :
    ∃ number, d.NumberedAt path number := by
  obtain ⟨located, -, hordered, hmem⟩ := d.listsInOrder_elements
  obtain ⟨before, after, rfl⟩ := List.append_of_mem ((hmem path e).2 he)
  exact ⟨before.length, numberedAt_of_split hordered hmem⟩

/-- The elements at their places, each under its number. -/
theorem exists_located_elements (d : Document) :
    ∃ located : List (Path × Node), located.map Prod.snd = d.elements ∧
      located.Pairwise (fun x y => x.1 < y.1) ∧
        ∀ path e number, located[number]? = some (path, e) ↔
          d.ElementAt path e ∧ d.NumberedAt path number := by
  obtain ⟨located, hl, hordered, hmem⟩ := d.listsInOrder_elements
  refine ⟨located, hl, hordered, fun path e number => ?_⟩
  rw [getElem?_eq_some_iff_split]
  constructor
  · rintro ⟨before, after, rfl, rfl⟩
    exact ⟨(hmem path e).1 (by simp), numberedAt_of_split hordered hmem⟩
  · rintro ⟨he, hnumber⟩
    obtain ⟨before, after, rfl⟩ := List.append_of_mem ((hmem path e).2 he)
    exact ⟨before, after, rfl, (numberedAt_of_split hordered hmem).unique hnumber⟩

/-! ## The list of the identifiers -/

/-- The identifier is carried where the occurrence says, by the element with that number. -/
structure Holds (d : Document) (o : Occurrence) : Prop where
  carries : d.CarriesAt o.path o.name o.value
  element : d.ElementAt o.path o.identifier.element
  number : d.NumberedAt o.path o.identifier.position

theorem exists_holds_of_carriesAt (h : d.CarriesAt path name value) :
    ∃ o, d.Holds o ∧ o.path = path ∧ o.name = name ∧ o.value = value := by
  obtain ⟨e, he, hname, hvalue⟩ := h
  obtain ⟨number, hnumber⟩ := exists_numberedAt he
  exact ⟨⟨path, name, value, number, e⟩, ⟨⟨e, he, hname, hvalue⟩, he, hnumber⟩, rfl, rfl, rfl⟩

/-- **The identifiers of a document are all that is carried in it, in the order in which it is
read.** -/
theorem exists_occurrences (d : Document) :
    ∃ occurrences : List Occurrence, occurrences.map Occurrence.identifier = d.identifiers ∧
      occurrences.Pairwise (fun x y => x.place < y.place) ∧ ∀ o, o ∈ occurrences ↔ d.Holds o := by
  obtain ⟨located, hl, hordered, hmem⟩ := d.exists_located_elements
  refine ⟨located.zipIdx.flatMap fun x => Occurrence.ofElement x.1.1 x.2 x.1.2, ?_, ?_, fun o => ?_⟩
  · rw [identifiers, ← hl, List.zipIdx_map, List.flatMap_map, List.map_flatMap]
    exact List.flatMap_congr fun x _ => Occurrence.map_identifier_ofElement
  · have hzipped : (located.zipIdx.map Prod.fst).Pairwise fun x y => x.1 < y.1 := by
      rwa [List.zipIdx_map_fst]
    rw [List.pairwise_map] at hzipped
    refine List.pairwise_flatMap.2 ⟨fun _ _ => Occurrence.pairwise_ofElement, ?_⟩
    refine hzipped.imp fun {x y} hlt o ho p hp => readingOrder_lt_iff.2 (Or.inl ?_)
    rw [(Occurrence.mem_ofElement_iff.1 ho).1, (Occurrence.mem_ofElement_iff.1 hp).1]
    exact hlt
  · simp only [List.mem_flatMap, List.mem_zipIdx_iff_getElem?, Occurrence.mem_ofElement_iff]
    constructor
    · rintro ⟨⟨⟨_, e⟩, number⟩, hx, rfl, hname, hvalue, rfl, rfl⟩
      obtain ⟨he, hnumber⟩ := (hmem _ _ _).1 hx
      exact ⟨⟨_, he, hname, hvalue⟩, he, hnumber⟩
    · rintro ⟨⟨e, he, hname, hvalue⟩, helement, hnumber⟩
      obtain rfl := he.unique helement
      exact ⟨((o.path, o.identifier.element), o.identifier.position),
        (hmem _ _ _).2 ⟨he, hnumber⟩, rfl, hname, hvalue, rfl, rfl⟩

/-! ## The map -/

/-- The map leads from the identifiers of the document, and from nothing else, to the one element
that carries each of them. -/
structure MapsIdentifiers (d : Document) (map : List Identified) : Prop where
  /-- No identifier stands twice in the map. -/
  distinct : (map.map Identified.value).Nodup
  /-- The identifiers in the map are those that are carried anywhere. -/
  values : ∀ value, value ∈ map.map Identified.value ↔ ∃ path name, d.CarriesAt path name value
  /-- It leads to the element that carries the identifier, and to its number. -/
  leads : ∀ i ∈ map, ∃ path, d.ElementAt path i.element ∧ d.NumberedAt path i.position ∧
    ∀ other, (∃ name, d.CarriesAt other name i.value) ↔ other = path

theorem mem_map_value_identifiers_iff :
    value ∈ d.identifiers.map Identified.value ↔ ∃ path name, d.CarriesAt path name value := by
  obtain ⟨occurrences, hl, -, hmem⟩ := d.exists_occurrences
  rw [← hl, List.map_map, List.mem_map]
  constructor
  · rintro ⟨o, ho, rfl⟩
    exact ⟨o.path, o.name, ((hmem o).1 ho).carries⟩
  · rintro ⟨path, name, h⟩
    obtain ⟨o, ho, -, -, rfl⟩ := exists_holds_of_carriesAt h
    exact ⟨o, (hmem o).2 ho, rfl⟩

theorem mapsIdentifiers_of_idMap {map : List Identified} (h : d.idMap = .ok map) :
    d.MapsIdentifiers map := by
  obtain ⟨rfl, hnodup⟩ := idMap_eq_ok_iff.1 h
  have hdistinct := d.nodup_identifiers_iff.1 hnodup
  refine ⟨hnodup, fun value => mem_map_value_identifiers_iff, fun i hi => ?_⟩
  obtain ⟨occurrences, hl, -, hmem⟩ := d.exists_occurrences
  rw [← hl] at hi
  obtain ⟨o, ho, rfl⟩ := List.mem_map.1 hi
  obtain ⟨hcarries, helement, hnumber⟩ := (hmem o).1 ho
  refine ⟨o.path, helement, hnumber, fun other => ⟨?_, ?_⟩⟩
  · rintro ⟨name, hother⟩
    exact (hdistinct other o.path name o.name o.value hother hcarries).1
  · rintro rfl
    exact ⟨o.name, hcarries⟩

/-! ## The first repeat -/

/-- The identifier that is carried at the place under the name has been read before. -/
def RepeatsAt (d : Document) (path : Path) (name value : String) : Prop :=
  d.CarriesAt path name value ∧ ∃ earlier name', d.CarriesAt earlier name' value ∧
    readingOrder earlier name' < readingOrder path name

/-- It is the first identifier of the document that has been read before. -/
def IsFirstRepeatAt (d : Document) (path : Path) (name value : String) : Prop :=
  d.RepeatsAt path name value ∧ ∀ other name' value', d.RepeatsAt other name' value' →
    readingOrder path name ≤ readingOrder other name'

section Occurrences

variable {occurrences : List Occurrence} {o : Occurrence}

theorem isRepeat_iff (hmem : ∀ o, o ∈ occurrences ↔ d.Holds o) :
    IsRepeat Occurrence.place Occurrence.value occurrences o ↔
      d.Holds o ∧ d.RepeatsAt o.path o.name o.value := by
  simp only [IsRepeat, RepeatsAt, hmem]
  constructor
  · rintro ⟨ho, earlier, hearlier, hsame, hlt⟩
    exact ⟨ho, ho.carries, earlier.path, earlier.name, hsame ▸ hearlier.carries, hlt⟩
  · rintro ⟨ho, -, path, name, hcarries, hlt⟩
    obtain ⟨earlier, hearlier, rfl, rfl, hsame⟩ := exists_holds_of_carriesAt hcarries
    exact ⟨ho, earlier, hearlier, hsame, hlt⟩

theorem isFirstRepeat_iff (hmem : ∀ o, o ∈ occurrences ↔ d.Holds o) :
    IsFirstRepeat Occurrence.place Occurrence.value occurrences o ↔
      d.Holds o ∧ d.IsFirstRepeatAt o.path o.name o.value := by
  simp only [IsFirstRepeat, IsFirstRepeatAt, isRepeat_iff hmem, and_assoc]
  refine and_congr_right fun _ => and_congr_right fun _ => ?_
  constructor
  · intro hfirst other name' value' hrepeats
    obtain ⟨p, hp, rfl, rfl, rfl⟩ := exists_holds_of_carriesAt hrepeats.1
    exact hfirst p ⟨hp, hrepeats⟩
  · rintro hfirst p ⟨-, hrepeats⟩
    exact hfirst p.path p.name p.value hrepeats

end Occurrences

/-- A document is refused for the first identifier that has been read before. -/
theorem idMap_eq_error_iff {e : Error} :
    d.idMap = .error e ↔ ∃ path name value, d.IsFirstRepeatAt path name value ∧
      e = .xmlParse (.duplicateId value) := by
  obtain ⟨occurrences, hl, hordered, hmem⟩ := d.exists_occurrences
  rw [idMap_eq, okUnless_eq_error_iff, ← hl, firstFault?_repeatFault?_map,
    firstFault?_repeatFault?_eq_some_iff hordered]
  constructor
  · rintro ⟨o, hfirst, rfl⟩
    exact ⟨o.path, o.name, o.value, ((isFirstRepeat_iff hmem).1 hfirst).2, rfl⟩
  · rintro ⟨path, name, value, hfirst, rfl⟩
    obtain ⟨o, ho, rfl, rfl, rfl⟩ := exists_holds_of_carriesAt hfirst.1.1
    exact ⟨o, (isFirstRepeat_iff hmem).2 ⟨ho, hfirst⟩, rfl⟩

/-- **The map of identifiers is exact.**  There is one if no identifier stands twice, it leads from
the identifiers to the elements that carry them, and if there is none the fault names the first
identifier that repeats one before it.  In a parsed document the identifiers are the attributes with
one of the three names. -/
theorem idMap_isExact (d : Document) :
    (∀ text, parse text = .ok d → ∀ path name value, d.CarriesAt path name value ↔
      ∃ e, d.ElementAt path e ∧ name ∈ AttributeName.identifiers ∧
        ⟨⟨none, name⟩, value⟩ ∈ e.attributes) ∧
    ((∃ map, d.idMap = .ok map) ↔ d.HasDistinctIdentifiers) ∧
    (∀ map, d.idMap = .ok map → d.MapsIdentifiers map) ∧
    ∀ e, d.idMap = .error e ↔ ∃ path name value, d.IsFirstRepeatAt path name value ∧
      e = .xmlParse (.duplicateId value) := by
  refine ⟨?_, d.exists_idMap_iff, ?_, fun e => idMap_eq_error_iff⟩
  · intro text h path name value
    exact carriesAt_iff_of_parse h
  · intro map h
    exact mapsIdentifiers_of_idMap h

/-- An inner element carries two identifiers of its own, and then one that the outer one carries. -/
theorem idMap_isExact_of_texts :
    (∃ d map, parse "<a Id='x'><b ID='z' id='y'/></a>" = .ok d ∧ d.HasDistinctIdentifiers ∧
      d.MapsIdentifiers map ∧ map.map Identified.value = ["x", "z", "y"]) ∧
    ∃ d, parse "<a Id='x'><b ID='z' id='x'/></a>" = .ok d ∧ ¬ d.HasDistinctIdentifiers ∧
      ∃ path name, d.IsFirstRepeatAt path name "x" := by
  have hdistinct : (parse "<a Id='x'><b ID='z' id='y'/></a>").map (fun d =>
      d.idMap.map (List.map Identified.value)) = .ok (.ok ["x", "z", "y"]) := by decide +kernel
  have hrepeat : (parse "<a Id='x'><b ID='z' id='x'/></a>").map (fun d =>
      d.idMap.map (List.map Identified.value)) =
        .ok (.error (.xmlParse (.duplicateId "x"))) := by decide +kernel
  constructor
  · obtain ⟨d, hparse, hvalues⟩ := map_eq_ok_iff.1 hdistinct
    obtain ⟨map, hmap, hvalues⟩ := map_eq_ok_iff.1 hvalues
    obtain ⟨-, hiff, hmaps, -⟩ := idMap_isExact d
    exact ⟨d, map, hparse, hiff.1 ⟨map, hmap⟩, hmaps map hmap, hvalues⟩
  · obtain ⟨d, hparse, herror⟩ := map_eq_ok_iff.1 hrepeat
    rw [map_eq_error_iff] at herror
    obtain ⟨-, hiff, -, hfirst⟩ := idMap_isExact d
    refine ⟨d, hparse, fun h => ?_, ?_⟩
    · obtain ⟨map, hmap⟩ := hiff.2 h
      rw [hmap] at herror
      cases herror
    · obtain ⟨path, name, value, hrepeats, hvalue⟩ := (hfirst _).1 herror
      cases hvalue
      exact ⟨path, name, hrepeats⟩

end Document

end AdvancedSignature.Xml
