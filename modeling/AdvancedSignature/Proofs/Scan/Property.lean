import AdvancedSignature.Scan
import AdvancedSignature.Proofs.Outcome
import AdvancedSignature.Proofs.Xml.Order

/-!
# Scanned properties

What the scan makes of a property element, and which elements it takes for properties.

* `Describes container property e` has one rule for each way in which an element becomes the entry
  `e` of a layout.  `entry_eq_ok_iff` says that these are the ways, and `exists_entry_iff` when
  there is one.
* `PropertyAt qualifying path x` says where the properties stand, and
  `listsInOrder_propertyElements` that the scan finds them all.
-/

namespace AdvancedSignature

open Xml (Node Path ListsInOrder)
open Xml.Node (ChildAt listsInOrder_children)

/-! ## Kinds of elements -/

namespace PropertyKind

/-- The kind of an element of properties is known by its local name; of the two commitment kinds
it is the one with targets. -/
theorem ofElementName?_eq_some_iff {localName : String} {k : PropertyKind} :
    ofElementName? localName = some k ↔
      k.elementName? = some localName ∧ k ≠ .allDataObjectsCommitmentType := by
  constructor
  · intro h
    have hname : k.elementName? = some localName := by simpa using List.find?_some h
    refine ⟨hname, ?_⟩
    rintro rfl
    obtain rfl := Option.some.inj hname
    revert h
    decide +kernel
  · rintro ⟨hname, hk⟩
    cases k <;> cases hname <;> first | rfl | exact absurd rfl hk

theorem ofElementName?_eq_none_iff {localName : String} :
    ofElementName? localName = none ↔ ∀ k : PropertyKind, k.elementName? ≠ some localName := by
  simp [ofElementName?, mem_values]

/-- Whether more is read of the properties of the kind than the name of their element. -/
def isLookedInto : PropertyKind → Bool
  | .commitmentType | .allDataObjectsCommitmentType | .dataObjectFormat
  | .individualDataObjectsTimeStamp => true
  | _ => false

end PropertyKind

theorem PropertyGroup.isLookedInto_otherKind (g : PropertyGroup) :
    g.otherKind.isLookedInto = false := by
  cases g <;> rfl

namespace Scan

/-- The element is one of properties of the kind. -/
def IsOfKind (k : PropertyKind) (n : Node) : Prop :=
  isXades n = true ∧ k.elementName? = some n.localName

variable {container : PropertyGroup} {property : Node}

theorem kindOf_of_isOfKind {k : PropertyKind} (h : IsOfKind k property)
    (hk : k ≠ .allDataObjectsCommitmentType) : kindOf property container = k := by
  rw [kindOf, if_pos h.1, PropertyKind.ofElementName?_eq_some_iff.2 ⟨h.2, hk⟩]
  rfl

theorem kindOf_of_unknown (h : ∀ k, ¬ IsOfKind k property) :
    kindOf property container = container.otherKind := by
  rw [kindOf]
  split
  · next hxades =>
    rw [PropertyKind.ofElementName?_eq_none_iff.2 fun k hk => h k ⟨hxades, hk⟩]
    rfl
  · rfl

/-- An element is of a kind that is looked into, of one that is not, or of none. -/
theorem isOfKind_cases (property : Node) :
    IsOfKind .commitmentType property ∨ IsOfKind .dataObjectFormat property ∨
      IsOfKind .individualDataObjectsTimeStamp property ∨
        (∃ k, IsOfKind k property ∧ k.isLookedInto = false) ∨ ∀ k, ¬ IsOfKind k property := by
  by_cases hunknown : ∀ k, ¬ IsOfKind k property
  · simp [hunknown]
  · simp only [not_forall, not_not] at hunknown
    obtain ⟨k, hkind⟩ := hunknown
    cases hlook : k.isLookedInto with
    | false => exact Or.inr (Or.inr (Or.inr (Or.inl ⟨k, hkind, hlook⟩)))
    | true =>
      -- both commitment kinds are known by one element name
      cases k with
      | commitmentType | allDataObjectsCommitmentType => exact Or.inl hkind
      | dataObjectFormat => exact Or.inr (Or.inl hkind)
      | individualDataObjectsTimeStamp => exact Or.inr (Or.inr (Or.inl hkind))
      | _ => cases hlook

/-! ## Entries -/

/-- A data object that a commitment points at, by the text of an element. -/
def CommitmentPointerAt (property : Node) (path : Path) (pointer : String) : Prop :=
  ∃ c, ChildAt (isXadesNamed ElementName.objectReference) property path c ∧
    Blank.trim (c.text?.getD "") = pointer

/-- A data object that a time-stamp covers, by an attribute of an element. -/
def IncludePointerAt (property : Node) (path : Path) (pointer : String) : Prop :=
  ∃ c, ChildAt (isXadesNamed ElementName.includeElement) property path c ∧
    c.attribute? AttributeName.uri = some pointer

/-- The property is about all data objects and does not point at single ones. -/
def IsForAll (property : Node) : Prop :=
  ∃ path c, ChildAt (isXadesNamed ElementName.allSignedDataObjects) property path c

/-- Every data object that the time-stamp covers is named. -/
def NamesIncluded (property : Node) : Prop :=
  ∀ path c, ChildAt (isXadesNamed ElementName.includeElement) property path c →
    ∃ pointer, c.attribute? AttributeName.uri = some pointer

theorem listsInOrder_commitmentPointers (property : Node) :
    ListsInOrder (CommitmentPointerAt property)
      ((xadesChildren property ElementName.objectReference).map fun c =>
        Blank.trim (c.text?.getD "")) :=
  (listsInOrder_children _ property).map _

theorem listsInOrder_includePointers (property : Node) :
    ListsInOrder (IncludePointerAt property)
      ((xadesChildren property ElementName.includeElement).filterMap fun c =>
        c.attribute? AttributeName.uri) :=
  (listsInOrder_children _ property).filterMap _

/-- The entry is what the rules of structure need to know of the property. -/
inductive Describes (container : PropertyGroup) (property : Node) : LayoutEntry → Prop
  /-- A commitment points at the data objects that its elements name. -/
  | commitment {pointers : List String} (hkind : IsOfKind .commitmentType property)
      (hsingle : ¬ IsForAll property)
      (hpointers : ListsInOrder (CommitmentPointerAt property) pointers) :
      Describes container property
        ⟨.commitmentType, container, pointers.map LayoutEntry.pointee⟩
  /-- A commitment for all data objects points at none, whatever its elements name. -/
  | commitmentForAll (hkind : IsOfKind .commitmentType property) (hall : IsForAll property) :
      Describes container property ⟨.allDataObjectsCommitmentType, container, []⟩
  /-- A format points at the one data object that its attribute names. -/
  | format {pointer : String} (hkind : IsOfKind .dataObjectFormat property)
      (hpointer : property.attribute? AttributeName.objectReference = some pointer) :
      Describes container property ⟨.dataObjectFormat, container, [LayoutEntry.pointee pointer]⟩
  /-- A time-stamp of data objects points at those that its elements name. -/
  | timeStamp {pointers : List String}
      (hkind : IsOfKind .individualDataObjectsTimeStamp property)
      (hnamed : NamesIncluded property)
      (hpointers : ListsInOrder (IncludePointerAt property) pointers) :
      Describes container property
        ⟨.individualDataObjectsTimeStamp, container, pointers.map LayoutEntry.pointee⟩
  /-- Of other properties only the element counts. -/
  | plain {k : PropertyKind} (hkind : IsOfKind k property) (hplain : k.isLookedInto = false) :
      Describes container property ⟨k, container, []⟩
  /-- An element that is of no kind is a property of the container's own sort. -/
  | unknown (hunknown : ∀ k, ¬ IsOfKind k property) :
      Describes container property ⟨container.otherKind, container, []⟩

theorem isEmpty_xadesChildren_iff {localName : String} :
    (xadesChildren property localName).isEmpty = true ↔
      ¬ ∃ path c, ChildAt (isXadesNamed localName) property path c := by
  rw [List.isEmpty_iff, xadesChildren, (listsInOrder_children _ property).eq_nil_iff]
  simp only [not_exists]

theorem requiredAttribute_eq_ok_iff {n : Node} {element name value : String} :
    requiredAttribute n element name = .ok value ↔ n.attribute? name = some value := by
  unfold requiredAttribute
  cases n.attribute? name <;> simp

/-- Of elements that must each name something, the names are pointed at. -/
theorem foldlM_withTarget {element name : String} {cs : List Node} {e e' : LayoutEntry} :
    cs.foldlM (fun e c => do
        let target ← requiredAttribute c element name
        return LayoutEntry.withTarget e target) e = .ok e' ↔
      (∀ c ∈ cs, ∃ pointer, c.attribute? name = some pointer) ∧
        (cs.filterMap fun c => c.attribute? name).foldl LayoutEntry.withTarget e = e' := by
  induction cs generalizing e with
  | nil => simp [pure, Except.pure]
  | cons c rest ih =>
    rw [List.foldlM_cons, List.forall_mem_cons]
    cases hname : c.attribute? name with
    | none =>
      have hrequired : ∀ value, requiredAttribute c element name ≠ .ok value := by
        simp [requiredAttribute_eq_ok_iff, hname]
      simp [bind_eq_ok_iff, hrequired]
    | some value =>
      rw [requiredAttribute_eq_ok_iff.2 hname, ok_bind, pure_bind, ih]
      simp [hname]

theorem commitmentEntry_of_isForAll (h : IsForAll property) :
    commitmentEntry property container = ⟨.allDataObjectsCommitmentType, container, []⟩ := by
  rw [commitmentEntry, if_neg]
  exact fun hempty => isEmpty_xadesChildren_iff.1 hempty h

theorem commitmentEntry_of_not_isForAll {pointers : List String} (h : ¬ IsForAll property)
    (hpointers : ListsInOrder (CommitmentPointerAt property) pointers) :
    commitmentEntry property container =
      ⟨.commitmentType, container, pointers.map LayoutEntry.pointee⟩ := by
  obtain rfl := hpointers.unique (listsInOrder_commitmentPointers property)
  rw [commitmentEntry, if_pos (isEmpty_xadesChildren_iff.2 h), ← List.foldl_map,
    LayoutEntry.foldl_withTarget, List.nil_append]

theorem entry_commitment (h : IsOfKind .commitmentType property) :
    entry container property = .ok (commitmentEntry property container) := by
  rw [entry, kindOf_of_isOfKind h (by decide)]

theorem entry_format_iff (h : IsOfKind .dataObjectFormat property) {e : LayoutEntry} :
    entry container property = .ok e ↔
      ∃ pointer, property.attribute? AttributeName.objectReference = some pointer ∧
        ⟨.dataObjectFormat, container, [LayoutEntry.pointee pointer]⟩ = e := by
  rw [entry, kindOf_of_isOfKind h (by decide)]
  simp only [bind_eq_ok_iff, requiredAttribute_eq_ok_iff]
  simp [LayoutEntry.withTarget, pure, Except.pure]

theorem entry_timeStamp_iff (h : IsOfKind .individualDataObjectsTimeStamp property)
    {pointers : List String} (hpointers : ListsInOrder (IncludePointerAt property) pointers)
    {e : LayoutEntry} :
    entry container property = .ok e ↔
      NamesIncluded property ∧
        ⟨.individualDataObjectsTimeStamp, container, pointers.map LayoutEntry.pointee⟩ = e := by
  obtain rfl := hpointers.unique (listsInOrder_includePointers property)
  rw [entry, kindOf_of_isOfKind h (by decide)]
  simp only [foldlM_withTarget, LayoutEntry.foldl_withTarget, List.nil_append]
  refine and_congr ?_ Iff.rfl
  simp only [xadesChildren, (listsInOrder_children _ property).mem_iff, NamesIncluded]
  exact ⟨fun h path c hc => h c ⟨path, hc⟩, fun h c ⟨path, hc⟩ => h path c hc⟩

theorem entry_of_kindOf {k : PropertyKind} (hkind : kindOf property container = k)
    (hplain : k.isLookedInto = false) :
    entry container property = .ok ⟨k, container, []⟩ := by
  rw [entry, hkind]
  cases k <;> first | rfl | cases hplain

theorem entry_of_isOfKind {k : PropertyKind} (hkind : IsOfKind k property)
    (hplain : k.isLookedInto = false) :
    entry container property = .ok ⟨k, container, []⟩ :=
  entry_of_kindOf (kindOf_of_isOfKind hkind (by rintro rfl; cases hplain)) hplain

theorem entry_of_unknown (h : ∀ k, ¬ IsOfKind k property) :
    entry container property = .ok ⟨container.otherKind, container, []⟩ :=
  entry_of_kindOf (kindOf_of_unknown h) container.isLookedInto_otherKind

/-- **The scan gives the entry that describes a property.** -/
theorem entry_eq_ok_iff {e : LayoutEntry} :
    entry container property = .ok e ↔ Describes container property e := by
  constructor
  · intro h
    rcases isOfKind_cases property with hkind | hkind | hkind | ⟨k, hkind, hplain⟩ | hunknown
    · rw [entry_commitment hkind] at h
      obtain rfl := Except.ok.inj h
      by_cases hall : IsForAll property
      · rw [commitmentEntry_of_isForAll hall]
        exact .commitmentForAll hkind hall
      · have hpointers := listsInOrder_commitmentPointers property
        rw [commitmentEntry_of_not_isForAll hall hpointers]
        exact .commitment hkind hall hpointers
    · obtain ⟨pointer, hpointer, rfl⟩ := (entry_format_iff hkind).1 h
      exact .format hkind hpointer
    · have hpointers := listsInOrder_includePointers property
      obtain ⟨hnamed, rfl⟩ := (entry_timeStamp_iff hkind hpointers).1 h
      exact .timeStamp hkind hnamed hpointers
    · rw [entry_of_isOfKind hkind hplain] at h
      obtain rfl := Except.ok.inj h
      exact .plain hkind hplain
    · rw [entry_of_unknown hunknown] at h
      obtain rfl := Except.ok.inj h
      exact .unknown hunknown
  · intro h
    cases h with
    | commitment hkind hsingle hpointers =>
      rw [entry_commitment hkind, commitmentEntry_of_not_isForAll hsingle hpointers]
    | commitmentForAll hkind hall =>
      rw [entry_commitment hkind, commitmentEntry_of_isForAll hall]
    | format hkind hpointer => exact (entry_format_iff hkind).2 ⟨_, hpointer, rfl⟩
    | timeStamp hkind hnamed hpointers =>
      exact (entry_timeStamp_iff hkind hpointers).2 ⟨hnamed, rfl⟩
    | plain hkind hplain => exact entry_of_isOfKind hkind hplain
    | unknown hunknown => exact entry_of_unknown hunknown

/-- The property points at data objects where it has to. -/
structure HasPointers (property : Node) : Prop where
  format : IsOfKind .dataObjectFormat property →
    ∃ pointer, property.attribute? AttributeName.objectReference = some pointer
  timeStamp : IsOfKind .individualDataObjectsTimeStamp property → NamesIncluded property

/-- A property is described, in whatever container, when it has the pointers that it needs. -/
theorem exists_entry_iff :
    (∃ e, entry container property = .ok e) ↔ HasPointers property := by
  constructor
  · rintro ⟨e, he⟩
    refine ⟨fun hkind => ?_, fun hkind => ?_⟩
    · obtain ⟨pointer, hpointer, -⟩ := (entry_format_iff hkind).1 he
      exact ⟨pointer, hpointer⟩
    · exact ((entry_timeStamp_iff hkind (listsInOrder_includePointers property)).1 he).1
  · intro h
    rcases isOfKind_cases property with hkind | hkind | hkind | ⟨k, hkind, hplain⟩ | hunknown
    · exact ⟨_, entry_commitment hkind⟩
    · obtain ⟨pointer, hpointer⟩ := h.format hkind
      exact ⟨_, (entry_format_iff hkind).2 ⟨pointer, hpointer, rfl⟩⟩
    · have hpointers := listsInOrder_includePointers property
      exact ⟨_, (entry_timeStamp_iff hkind hpointers).2 ⟨h.timeStamp hkind, rfl⟩⟩
    · exact ⟨_, entry_of_isOfKind hkind hplain⟩
    · exact ⟨_, entry_of_unknown hunknown⟩

/-! ## Containers -/

/-- The name of the section in which the containers of the group stand. -/
def sectionName (g : PropertyGroup) : String :=
  if g.isSigned then ElementName.signedProperties else ElementName.unsignedProperties

/-- Where a property stands in qualifying properties: in the container of its group, and that in
the section of the group. -/
def PropertyAt (qualifying : Node) (path : Path) (x : PropertyGroup × Node) : Prop :=
  ∃ toSection toContainer toProperty part container,
    path = toSection ++ (toContainer ++ toProperty) ∧
      ChildAt (isXadesNamed (sectionName x.1)) qualifying toSection part ∧
        ChildAt (isXadesNamed x.1.containerName) part toContainer container ∧
          ChildAt Node.isElement container toProperty x.2

theorem mem_sectionGroups_iff {localName : String} {g : PropertyGroup} :
    g ∈ sectionGroups localName ↔ localName = sectionName g := by
  unfold sectionGroups
  split_ifs with hsigned hunsigned
  · subst hsigned
    cases g <;> decide
  · subst hunsigned
    cases g <;> decide
  · cases g <;> simp [sectionName, PropertyGroup.isSigned, hsigned, hunsigned]

theorem isXadesNamed_iff {localName : String} {n : Node} :
    isXadesNamed localName n = true ↔ isXades n = true ∧ n.localName = localName := by
  rw [isXadesNamed, Bool.and_eq_true, beq_iff_eq]

theorem isElement_of_isXades {n : Node} (h : isXades n = true) : n.isElement = true :=
  (Bool.and_eq_true_iff.1 h).1

theorem containerName_injective : Function.Injective PropertyGroup.containerName := by
  intro g g' h
  cases g <;> cases g' <;> first | rfl | exact absurd h (by decide)

theorem groupOf?_eq_some_iff {localName : String} {container : Node} {g : PropertyGroup} :
    groupOf? (sectionGroups localName) container = some g ↔
      localName = sectionName g ∧ isXadesNamed g.containerName container = true := by
  have hfound {g : PropertyGroup}
      (h : groupOf? (sectionGroups localName) container = some g) :
      localName = sectionName g ∧ isXadesNamed g.containerName container = true := by
    have hname := List.find?_some h
    rw [Bool.and_eq_true, beq_iff_eq] at hname
    exact ⟨mem_sectionGroups_iff.1 (List.mem_of_find?_eq_some h),
      isXadesNamed_iff.2 ⟨hname.2, hname.1.symm⟩⟩
  refine ⟨hfound, fun ⟨hsection, hcontainer⟩ => ?_⟩
  have hlocal := (isXadesNamed_iff.1 hcontainer).2
  cases hgroup : groupOf? (sectionGroups localName) container with
  | none =>
    have hnone := List.find?_eq_none.1 hgroup g (mem_sectionGroups_iff.2 hsection)
    simp [hlocal, (isXadesNamed_iff.1 hcontainer).1] at hnone
  | some g' =>
    have hlocal' := (isXadesNamed_iff.1 (hfound hgroup).2).2
    rw [containerName_injective (hlocal'.symm.trans hlocal)]

/-- The properties of a container in a section with the name. -/
theorem listsInOrder_properties (localName : String) (container : Node) :
    ListsInOrder
      (fun path x => (localName = sectionName x.1 ∧ isXadesNamed x.1.containerName container) ∧
        ChildAt Node.isElement container path x.2)
      (match groupOf? (sectionGroups localName) container with
        | some group => (container.children.filter Node.isElement).map fun p => (group, p)
        | none => []) := by
  simp only [← groupOf?_eq_some_iff]
  cases groupOf? (sectionGroups localName) container with
  | none => exact ListsInOrder.nil (by simp)
  | some group =>
    refine ((listsInOrder_children _ container).map _).congr fun path x => ?_
    simp only [Option.some.injEq, Prod.ext_iff]
    constructor
    · rintro ⟨p, hp, rfl, rfl⟩
      exact ⟨rfl, hp⟩
    · rintro ⟨rfl, hx⟩
      exact ⟨x.2, hx, rfl, rfl⟩

/-- **The scan finds every property, where it stands and in document order.** -/
theorem listsInOrder_propertyElements (qualifying : Node) :
    ListsInOrder (PropertyAt qualifying) (propertyElements qualifying) := by
  have hsection (part : Node) := (listsInOrder_children Node.isElement part).flatMap 1
    (fun _ _ h => h.length_eq) fun container _ => listsInOrder_properties part.localName container
  refine ((listsInOrder_children isXades qualifying).flatMap 1 (fun _ _ h => h.length_eq)
    fun part _ => hsection part).congr fun path x => ?_
  constructor
  · rintro ⟨toSection, _, part, rfl, hpart, toContainer, toProperty, container, rfl, hcontainer,
      ⟨hname, hnamed⟩, hx⟩
    have hpart := hpart.of_holds (isXadesNamed_iff.2 ⟨hpart.holds, hname⟩)
    exact ⟨toSection, toContainer, toProperty, part, container, rfl, hpart,
      hcontainer.of_holds hnamed, hx⟩
  · rintro ⟨toSection, toContainer, toProperty, part, container, rfl, hpart, hcontainer, hx⟩
    obtain ⟨hxades, hname⟩ := isXadesNamed_iff.1 hpart.holds
    have helement := isElement_of_isXades (isXadesNamed_iff.1 hcontainer.holds).1
    exact ⟨toSection, _, part, rfl, hpart.of_holds hxades, toContainer, toProperty, container,
      rfl, hcontainer.of_holds helement, ⟨hname, hcontainer.holds⟩, hx⟩

end Scan

end AdvancedSignature
