import AdvancedSignature.Proofs.Declaration.Attachment
import Mathlib

/-!
# Reference identifiers

A reference identifier is generated from the number of its data object or chosen by the caller, and
the two kinds share one space of texts.

* `DataObjectDescription.generatedReferenceId_injective`: the number can be read off a generated
  identifier.
* `Declarations.namings` lists how a run has named its data objects.  A number is named once
  (`IsConsistent.pairwise_namings`), and every data object bears the name of its number
  (`IsConsistent.isNamed_run`).
* `Declarations.generated_refused_iff_chosen`: generated identifiers never meet each other, and a
  collection refuses one just when the same text was chosen for one of its data objects.
-/

namespace AdvancedSignature

/-- The number can be read off a generated identifier. -/
theorem DataObjectDescription.generatedReferenceId_injective :
    Function.Injective generatedReferenceId := by
  intro m n h
  have htext : toString m.sequence = toString n.sequence := by
    simpa [generatedReferenceId, String.append_right_inj] using h
  exact congrArg DataObjectId.mk (Nat.repr_inj.1 htext)

/-- How a data object came by its reference identifier. -/
inductive Naming where
  | generated (id : DataObjectId)
  | chosen (id : DataObjectId) (referenceId : String)
  deriving DecidableEq

namespace Naming

/-- The data object that is named. -/
def id : Naming → DataObjectId
  | .generated id | .chosen id _ => id

/-- The identifier that it is given. -/
def referenceId : Naming → String
  | .generated id => DataObjectDescription.generatedReferenceId id
  | .chosen _ referenceId => referenceId

/-- Whether the identifier was generated. -/
def isGenerated : Naming → Bool
  | .generated _ => true
  | .chosen _ _ => false

/-- The data object bears the name. -/
def Names (n : Naming) (d : DataObjectDescription) : Prop :=
  n.id = d.id ∧ n.referenceId = d.referenceId

end Naming

namespace Declarations

variable {s : Declarations} {a : Action} {actions : List Action}

/-! ## How data objects are named -/

/-- The name that an action gives to the data object that it describes. -/
def naming? (s : Declarations) : Action → Option Naming
  | .describe _ => some (.generated ⟨s.nextDataObject⟩)
  | .describeAs referenceId _ => some (.chosen ⟨s.nextDataObject⟩ referenceId)
  | _ => none

/-- The names that a run gives, in order. -/
def namings (s : Declarations) : List Action → List Naming
  | [] => []
  | a :: rest => (s.naming? a).toList ++ (s.perform a).2.namings rest

/-- Only the next number is named, and it is given out with the name. -/
theorem sequence_of_naming {n : Naming} (h : s.naming? a = some n) :
    n.id.sequence = s.nextDataObject ∧ (s.perform a).2.nextDataObject = s.nextDataObject + 1 := by
  cases a <;> cases h <;> exact ⟨rfl, rfl⟩

theorem IsConsistent.le_of_mem_namings (hs : s.IsConsistent) {n : Naming}
    (h : n ∈ s.namings actions) : s.nextDataObject ≤ n.id.sequence := by
  induction actions generalizing s with
  | nil => cases h
  | cons a rest ih =>
    rcases List.mem_append.1 h with h | h
    · exact (sequence_of_naming (Option.mem_toList.1 h)).1.ge
    · exact (hs.nextDataObject_le a).trans (ih (hs.perform a) h)

/-- Names are given to ever higher numbers. -/
theorem IsConsistent.pairwise_namings (hs : s.IsConsistent) (actions : List Action) :
    (s.namings actions).Pairwise fun m n => m.id.sequence < n.id.sequence := by
  induction actions generalizing s with
  | nil => exact List.Pairwise.nil
  | cons a rest ih =>
    have hrest := ih (hs.perform a)
    cases hn : s.naming? a with
    | none => simpa [namings, hn] using hrest
    | some n =>
      obtain ⟨hid, hnext⟩ := sequence_of_naming hn
      simp only [namings, hn, Option.toList_some, List.singleton_append]
      refine List.pairwise_cons.2 ⟨fun m hm => ?_, hrest⟩
      -- the rest of the run starts behind the number that is named here
      have hle := (hs.perform a).le_of_mem_namings hm
      omega

/-- A number is named once. -/
theorem IsConsistent.nodup_ids_namings (hs : s.IsConsistent) (actions : List Action) :
    ((s.namings actions).map Naming.id).Nodup := by
  refine List.pairwise_map.2 ((hs.pairwise_namings actions).imp fun hlt heq => ?_)
  exact hlt.ne (congrArg DataObjectId.sequence heq)

/-- Data objects with generated identifiers have different ones. -/
theorem IsConsistent.nodup_generated (hs : s.IsConsistent) (actions : List Action) :
    (((s.namings actions).filter Naming.isGenerated).map Naming.referenceId).Nodup := by
  have hnodup : ((s.namings actions).filter Naming.isGenerated).Nodup :=
    (hs.nodup_ids_namings actions).of_map.filter _
  refine hnodup.map_on fun m hm n hn heq => ?_
  cases m with
  | chosen => simp [Naming.isGenerated] at hm
  | generated id =>
    cases n with
    | chosen => simp [Naming.isGenerated] at hn
    | generated id' =>
      exact congrArg Naming.generated
        (DataObjectDescription.generatedReferenceId_injective heq)

/-! ## What bears a name -/

/-- A data object there is after an action was there before under the same name, or the action has
named it. -/
theorem IsConsistent.isNamed_perform (hs : s.IsConsistent) {o : DataObjectDescription}
    (ho : o ∈ (s.perform a).2.objects) :
    (∃ d ∈ s.objects, d.id = o.id ∧ d.referenceId = o.referenceId) ∨
      ∃ n ∈ s.naming? a, n.Names o := by
  obtain ⟨outcome, s', heq, hchange⟩ := hs.change a
  rw [heq] at ho
  replace ho : o ∈ s'.objects := ho
  have hsame (ho : o ∈ s.objects) :
      ∃ d ∈ s.objects, d.id = o.id ∧ d.referenceId = o.referenceId := ⟨o, ho, rfl, rfl⟩
  cases hchange with
  | unknown | attach | checkLayout => exact Or.inl (hsame ho)
  | refused =>
    refine Or.inl (hsame ?_)
    cases a with
    | register => exact (List.filter_sublist.append_right _).subset ho
    | _ => exact ho
  | describe | describeAs =>
    rcases mem_objects_allocate ho with ho | rfl
    · exact Or.inl (hsame ho)
    · exact Or.inr ⟨_, rfl, rfl, rfl⟩
  | openCollection => exact Or.inl (hsame (by simpa [Declarations.objects] using ho))
  | @setType d hd | @addTransform d hd =>
    rcases mem_objects_replace ho with rfl | ⟨ho, -⟩
    · exact Or.inl ⟨d, hd, rfl, rfl⟩
    · exact Or.inl (hsame ho)
  | @declare d hd p =>
    rcases mem_objects_replace ho with rfl | ⟨ho, -⟩
    · exact Or.inl ⟨d, hd, (d.id_withProperty p).symm, (d.referenceId_withProperty p).symm⟩
    · exact Or.inl (hsame ho)
  | register hd hc => exact Or.inl (hsame ((hs.objects_register_subperm hd hc).subset ho))
  | declareForAll hc => exact Or.inl (hsame ((objects_set_withProperty hc).subset ho))

/-- After a run, a data object bears the name that it had before or that the run has given it. -/
theorem IsConsistent.isNamed_run (hs : s.IsConsistent) {o : DataObjectDescription}
    (ho : o ∈ (s.run actions).objects) :
    (∃ d ∈ s.objects, d.id = o.id ∧ d.referenceId = o.referenceId) ∨
      ∃ n ∈ s.namings actions, n.Names o := by
  induction actions generalizing s with
  | nil => exact Or.inl ⟨o, ho, rfl, rfl⟩
  | cons a rest ih =>
    -- what was there after the first action is traced back to before it
    rcases ih (hs.perform a) ho with ⟨d, hd, hid, hreference⟩ | ⟨n, hn, hnames⟩
    · rcases hs.isNamed_perform hd with ⟨d', hd', hid', hreference'⟩ | ⟨n, hn, hid', hreference'⟩
      · exact Or.inl ⟨d', hd', hid'.trans hid, hreference'.trans hreference⟩
      · exact Or.inr ⟨n, List.mem_append_left _ (Option.mem_toList.2 hn), hid'.trans hid,
          hreference'.trans hreference⟩
    · exact Or.inr ⟨n, List.mem_append_right _ hn, hnames⟩

/-- When a run starts with no data object, its names are those of the data objects. -/
theorem IsConsistent.referenceId_eq (hs : s.IsConsistent) (hstart : s.objects = [])
    {o : DataObjectDescription} (ho : o ∈ (s.run actions).objects) {n : Naming}
    (hn : n ∈ s.namings actions) (hid : n.id = o.id) : n.referenceId = o.referenceId := by
  rcases hs.isNamed_run ho with ⟨d, hd, -⟩ | ⟨m, hm, hmid, hmreference⟩
  · rw [hstart] at hd
    cases hd
  · have hmn := List.inj_on_of_nodup_map (hs.nodup_ids_namings actions) hn hm (hid.trans hmid.symm)
    rw [hmn, hmreference]

/-! ## Handing over -/

/-- A collection refuses a description exactly if it has its reference identifier. -/
theorem IsConsistent.outcome_register (hs : s.IsConsistent) {d : DataObjectDescription}
    (hd : d ∈ s.descriptions) {i : Nat} {c : SignedDataObjects} (hc : s.collections[i]? = some c) :
    (s.perform (.register d.id i)).1 =
      if d.referenceId ∈ c.referenceIds then .refused (.duplicateDataObject d.referenceId)
      else .accepted := by
  have hfind : s.descriptions.find? (fun other => other.id == d.id) = some d :=
    (find?_key_eq_some_iff hs.ids_descriptions).2 ⟨hd, rfl⟩
  by_cases hmem : d.referenceId ∈ c.referenceIds <;>
    simp only [Declarations.perform, hfind, hc, registerIn, SignedDataObjects.add_eq, hmem,
      if_true, if_false]

/-- A description that is still to be handed over is not in a collection. -/
theorem IsConsistent.id_ne_of_mem_collection (hs : s.IsConsistent) {d o : DataObjectDescription}
    (hd : d ∈ s.descriptions) {c : SignedDataObjects} (hc : c ∈ s.collections)
    (ho : o ∈ c.objects) : o.id ≠ d.id := by
  have hids := hs.ids
  rw [Declarations.objects, List.map_append] at hids
  have hmem : o ∈ s.collections.flatMap SignedDataObjects.objects := List.mem_flatMap.2 ⟨c, hc, ho⟩
  intro hid
  exact List.disjoint_of_nodup_append hids (List.mem_map_of_mem hd) (hid ▸ List.mem_map_of_mem hmem)

/-- A collection has the identifier generated for a description just when it was chosen for one of
its data objects. -/
theorem IsConsistent.generated_mem_referenceIds_iff (hs : s.IsConsistent)
    (hstart : s.objects = []) {d : DataObjectDescription}
    (hd : d ∈ (s.run actions).descriptions) (hgenerated : .generated d.id ∈ s.namings actions)
    {c : SignedDataObjects} (hc : c ∈ (s.run actions).collections) :
    d.referenceId ∈ c.referenceIds ↔
      ∃ o ∈ c.objects, .chosen o.id d.referenceId ∈ s.namings actions := by
  have hin {o : DataObjectDescription} (ho : o ∈ c.objects) : o ∈ (s.run actions).objects :=
    List.mem_append_right _ (List.mem_flatMap.2 ⟨c, hc, ho⟩)
  have hreference : DataObjectDescription.generatedReferenceId d.id = d.referenceId :=
    hs.referenceId_eq hstart (List.mem_append_left _ hd) hgenerated rfl
  constructor
  · intro h
    obtain ⟨o, ho, hsame⟩ := List.mem_map.1 h
    rcases hs.isNamed_run (hin ho) with ⟨d', hd', -⟩ | ⟨n, hn, hid, hname⟩
    · rw [hstart] at hd'
      cases hd'
    · rw [hsame] at hname
      cases n with
      | chosen id referenceId =>
        obtain rfl : id = o.id := hid
        obtain rfl : referenceId = d.referenceId := hname
        exact ⟨o, ho, hn⟩
      | generated id =>
        -- two numbers with one generated identifier are one number
        have hsame : id = d.id := DataObjectDescription.generatedReferenceId_injective
          (hname.trans hreference.symm)
        exact absurd (hid.symm.trans hsame) ((hs.run actions).id_ne_of_mem_collection hd hc ho)
  · rintro ⟨o, ho, hchosen⟩
    have hsame : d.referenceId = o.referenceId := hs.referenceId_eq hstart (hin ho) hchosen rfl
    exact List.mem_map.2 ⟨o, ho, hsame.symm⟩

/-- **A generated identifier is refused only where a chosen one is the same text.**  After any run,
wherever the numbers start, data objects with generated identifiers have different ones.  Handing
one of them over to a collection is refused as a duplicate if the collection has a data object for
which the caller chose that very text, and is accepted if it has none. -/
theorem generated_refused_iff_chosen (first : Nat) (actions : List Action) :
    let start : Declarations := { nextDataObject := first }
    let s := start.run actions
    let names := start.namings actions
    ((names.filter Naming.isGenerated).map Naming.referenceId).Nodup ∧
      ∀ d ∈ s.descriptions, .generated d.id ∈ names →
        d.referenceId = DataObjectDescription.generatedReferenceId d.id ∧
          ∀ i c, s.collections[i]? = some c →
            let outcome := (s.perform (.register d.id i)).1
            let chosen := ∃ o ∈ c.objects, .chosen o.id d.referenceId ∈ names
            (chosen → outcome = .refused (.duplicateDataObject d.referenceId)) ∧
              (¬ chosen → outcome = .accepted) := by
  intro start s names
  have hstart : start.IsConsistent := isConsistent_start first
  refine ⟨hstart.nodup_generated actions, fun d hd hgenerated => ⟨?_, fun i c hc => ?_⟩⟩
  · exact (hstart.referenceId_eq rfl (List.mem_append_left _ hd) hgenerated rfl).symm
  · intro outcome chosen
    have hmem : d.referenceId ∈ c.referenceIds ↔ chosen :=
      hstart.generated_mem_referenceIds_iff rfl hd hgenerated (List.mem_of_getElem? hc)
    have houtcome := (hstart.run actions).outcome_register hd hc
    exact ⟨fun h => houtcome.trans (if_pos (hmem.2 h)),
      fun h => houtcome.trans (if_neg (mt hmem.1 h))⟩

/-- Checking a layout takes a number, so that the second description is the third data object.  Its
identifier was chosen for the first: the collection that has the first refuses it, and a collection
of its own accepts it. -/
theorem generated_refused_iff_chosen_of_two_objects :
    let actions : List Action :=
      [.describeAs "xades-ref-3" "a.txt", .checkLayout { references := ["r1"] },
        .describe "b.txt", .openCollection, .openCollection, .register ⟨1⟩ 0]
    let start : Declarations := {}
    let s := start.run actions
    let d : DataObjectDescription := { id := ⟨3⟩, referenceId := "xades-ref-3", uri := "b.txt" }
    d ∈ s.descriptions ∧ .generated d.id ∈ start.namings actions ∧
      (s.perform (.register d.id 0)).1 = .refused (.duplicateDataObject "xades-ref-3") ∧
      (s.perform (.register d.id 1)).1 = .accepted := by
  intro actions start s d
  let first : DataObjectDescription :=
    { id := ⟨1⟩, referenceId := "xades-ref-3", uri := "a.txt" }
  have hd : d ∈ s.descriptions := by decide +kernel
  have hgenerated : .generated d.id ∈ start.namings actions := by decide +kernel
  have hfull : s.collections[0]? = some { objects := [first] } := by decide +kernel
  have hempty : s.collections[1]? = some { objects := [] } := by decide +kernel
  have hchosen : .chosen first.id d.referenceId ∈ start.namings actions := by decide +kernel
  -- the run itself is not to be computed again
  clear_value actions
  have houtcome := ((generated_refused_iff_chosen 1 actions).2 d hd hgenerated).2
  refine ⟨hd, hgenerated, (houtcome 0 _ hfull).1 ⟨first, List.mem_singleton_self _, hchosen⟩, ?_⟩
  exact (houtcome 1 _ hempty).2 fun ⟨o, ho, _⟩ => List.not_mem_nil ho

/-- A description with a generated identifier can be refused as a duplicate. -/
theorem generated_refused_of_chosen :
    let actions : List Action :=
      [.describeAs "xades-ref-2" "#a", .describe "#b", .openCollection, .register ⟨1⟩ 0]
    let s := ({} : Declarations).run actions
    .generated ⟨2⟩ ∈ ({} : Declarations).namings actions ∧
      (s.perform (.register ⟨2⟩ 0)).1 = .refused (.duplicateDataObject "xades-ref-2") := by
  decide +kernel

end Declarations

end AdvancedSignature
