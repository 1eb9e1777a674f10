import AdvancedSignature.Proofs.Layout.Replay
import AdvancedSignature.Proofs.Property.Qualifying
import AdvancedSignature.Proofs.Reproduction.Targets

/-!
# What is found is what can be produced

A layout is accepted by the check exactly when an application can produce its properties anew
without being refused.  The two sides use different containers in a different order, but each of
them follows the faults of the layout: the check by `PropertyLayout.checkFrom_eq`, the application
by `Reproduction.Tracks.follows_foldlM`.
-/

namespace AdvancedSignature

namespace Declarations

variable {refs : List (String × DataObjectId)} {cast : Cast} {seen : List (LayoutEntry × Nat)}
  {s : Declarations} {e : LayoutEntry × Nat}

/-! ## Data-object entries -/

/-- A property of its own for all data objects is accepted. -/
theorem Reproduces.follows_declareForAll (h : s.Reproduces refs cast seen)
    (hinjective : Function.Injective cast.dataObject) (hpos : ∀ f ∈ seen, f.2 ≠ e.2)
    (hkind : (cast.dataObject e.2).kind = e.1.kind) (hlevel : e.1.kind.isSignatureLevel = false)
    (hall : (cast.dataObject e.2).multiplicity = .all) (hnil : e.1.targets = []) :
    Follows (s.attempt (.declareForAll 0 (cast.dataObject e.2))) none
      fun s' => s'.Reproduces refs cast (seen ++ [e]) := by
  obtain ⟨c, hc⟩ := h.collection
  have hmem : c ∈ s.collections := hc ▸ List.mem_cons_self
  have hget : s.collections[0]? = some c := by
    rw [hc]
    rfl
  have hnot : cast.dataObject e.2 ∉ (c.bagFor (cast.dataObject e.2)).entries := by
    intro hp
    have hheld : s.Holds (cast.dataObject e.2) := by
      refine Or.inr ⟨c, hmem, ?_⟩
      unfold SignedDataObjects.bagFor at hp
      split_ifs at hp
      · exact Or.inr hp
      · exact Or.inl hp
    obtain ⟨f, hf, heq⟩ := h.held _ hheld
    exact hpos f hf (hinjective heq).symm
  -- the one data-object kind that is put is for one data object, not for all
  have hadd : (HasKind.kind (cast.dataObject e.2)).insertionPolicy ≠ .put := by
    intro hput
    replace hput : (cast.dataObject e.2).kind.insertionPolicy = .put := hput
    have hformat := (PropertyKind.insertionPolicy_eq_put_iff (hkind ▸ hlevel)).1 hput
    have hone : (cast.dataObject e.2).multiplicity = .one := by
      rw [DataObjectProperty.multiplicity_eq (by rw [hformat]; rfl), hformat]
      rfl
    rw [hall] at hone
    cases hone
  have hadmits : (c.bagFor (cast.dataObject e.2)).Admits (cast.dataObject e.2) :=
    ⟨hnot, fun hput => absurd hput hadd⟩
  have hperform : s.perform (.declareForAll 0 (cast.dataObject e.2)) =
      (.accepted,
        { s with collections := s.collections.set 0 (c.withProperty (cast.dataObject e.2)) }) := by
    simp only [perform, hget]
    rcases (h.consistent.collections c hmem).declareForAll_cases (cast.dataObject e.2) with
      ⟨hrefused, -⟩ | ⟨-, heq⟩
    · exact absurd ⟨hall, hadmits⟩ hrefused
    · rw [heq]
  have hskipped := h.skip (e := e) fun r hformats => by simp [LayoutEntry.Formats, hnil] at hformats
  refine ⟨_, attempt_eq hperform, ?_⟩
  exact
    { consistent := h.consistent.declareForAll hget hall hadmits
      references := h.references
      collection := ⟨c.withProperty (cast.dataObject e.2), by rw [hc]; rfl⟩
      held := fun p hp => by
        rcases hp.of_set (objects_set_withProperty hget).subset rfl with hp | hp
        · exact hskipped.held p hp
        · rcases SignedDataObjects.holdsForAll_withProperty.1 hp with hp | rfl
          · exact hskipped.held p (Or.inr ⟨c, hmem, hp⟩)
          · exact ⟨e, List.mem_append_right _ List.mem_cons_self, rfl⟩
      fresh := hskipped.fresh
      hold := fun d hd => hskipped.hold d ((objects_set_withProperty hget).subset hd)
      formats := hskipped.formats }

/-- Declaring the property of an entry follows the fault of the entry. -/
theorem Reproduces.follows_declareEntry (h : s.Reproduces refs cast seen)
    (hfst : (refs.map Prod.fst).Nodup) (hinjective : Function.Injective cast.dataObject)
    (hplays : cast.Plays e) (hpos : ∀ f ∈ seen, f.2 ≠ e.2)
    (hlevel : e.1.kind.isSignatureLevel = false) (hplace : e.1.kind.group = e.1.container) :
    Follows (s.declareEntry (cast.dataObject e.2) e.1)
      (e.1.fault? (refs.map Prod.fst) (seen.map Prod.fst))
      fun s' => s'.Reproduces refs cast (seen ++ [e]) := by
  have hkind := hplays.dataObject hlevel
  have hmultiplicity := hplays.multiplicity hlevel
  simp only [declareEntry, LayoutEntry.fault?, hplace, hlevel, ne_eq, not_true_eq_false, if_false,
    Bool.false_eq_true]
  by_cases hnil : e.1.targets = []
  · have hall : (cast.dataObject e.2).multiplicity = .all ↔
        e.1.kind.multiplicity = .all ∨ e.1.kind.isOther = true := by
      rw [hmultiplicity]
      by_cases hother : e.1.kind.isOther = true
      · simp [hother, hnil]
      · simp [hother]
    simp only [hnil, if_true, ← hall]
    by_cases hp : (cast.dataObject e.2).multiplicity = .all
    · simp only [hp, if_true]
      exact h.follows_declareForAll hinjective hpos hkind hlevel hp hnil
    · simp only [hp, if_false]
      exact ⟨_, rfl⟩
  · simp only [hnil, and_false, if_false] at hmultiplicity ⊢
    -- before its first target the entry presents no data
    have hstart : s.Reproduces refs cast (seen ++ [(e.1.upTo [], e.2)]) :=
      h.skip fun r hformats => by simp [LayoutEntry.Formats, LayoutEntry.upTo] at hformats
    exact (follows_foldlM hfst hinjective hkind hmultiplicity hlevel e.1.targets hstart
      (TargetTable.records_nil refs (h.fresh e.2 hpos))).imp fun _ h' => h'.1

end Declarations

/-! ## Entries -/

namespace Reproduction

/-- The containers hold what the entries seen so far put into them. -/
structure Tracks (refs : List (String × DataObjectId)) (cast : Cast)
    (seen : List (LayoutEntry × Nat)) (r : Reproduction) : Prop where
  declarations : r.declarations.Reproduces refs cast seen
  signedSignature :
    r.signedSignature.Lists (cast.signedSignature ·.2) (·.kind.group = .signedSignature) seen
  unsignedSignature :
    r.unsignedSignature.Lists (cast.unsignedSignature ·.2) (·.kind.group = .unsignedSignature) seen

variable {refs : List (String × DataObjectId)} {cast : Cast} {seen : List (LayoutEntry × Nat)}
  {r : Reproduction} {e : LayoutEntry × Nat}

/-- Putting the property of an entry where the entry stands follows the fault of the entry. -/
theorem Tracks.follows_entry (h : r.Tracks refs cast seen) {l : PropertyLayout}
    (hcast : cast.Fits l) (hfst : (refs.map Prod.fst).Nodup) (hplays : cast.Plays e)
    (hpos : ∀ f ∈ seen, f.2 ≠ e.2) (hplace : e.1.kind.group = e.1.container) :
    Follows (entry cast r e) (e.1.fault? (refs.map Prod.fst) (seen.map Prod.fst))
      fun r' => r'.Tracks refs cast (seen ++ [e]) := by
  have hskip (hlevel : e.1.kind.isSignatureLevel = true) :
      r.declarations.Reproduces refs cast (seen ++ [e]) := by
    refine h.declarations.skip fun t hformats => ?_
    rw [hformats.1] at hlevel
    cases hlevel
  cases hg : e.1.kind.group with
  | signedSignature =>
    have hlevel : e.1.kind.isSignatureLevel = true := PropertyKind.isSignatureLevel_eq hg
    have hfresh : ∀ f ∈ seen, cast.signedSignature f.2 ≠ cast.signedSignature e.2 :=
      fun f hf heq => hpos f hf (hcast.signedSignature heq)
    have hkind := hplays.signedSignature hg
    have hput := h.signedSignature.putOrAdd_eq_fault hfresh hkind hg hplace rfl (refs.map Prod.fst)
    simp only [entry, hg, hput]
    cases e.1.fault? (refs.map Prod.fst) (seen.map Prod.fst) with
    | some fault => exact ⟨_, rfl⟩
    | none =>
      exact ⟨_, rfl, hskip hlevel, h.signedSignature.append hfresh hg hkind,
        h.unsignedSignature.skip (by simp [hg])⟩
  | unsignedSignature =>
    have hlevel : e.1.kind.isSignatureLevel = true := PropertyKind.isSignatureLevel_eq hg
    have hfresh : ∀ f ∈ seen, cast.unsignedSignature f.2 ≠ cast.unsignedSignature e.2 :=
      fun f hf heq => hpos f hf (hcast.unsignedSignature heq)
    have hkind := hplays.unsignedSignature hg
    have hput := h.unsignedSignature.putOrAdd_eq_fault hfresh hkind hg hplace rfl
      (refs.map Prod.fst)
    simp only [entry, hg, hput]
    cases e.1.fault? (refs.map Prod.fst) (seen.map Prod.fst) with
    | some fault => exact ⟨_, rfl⟩
    | none =>
      exact ⟨_, rfl, hskip hlevel, h.signedSignature.skip (by simp [hg]),
        h.unsignedSignature.append hfresh hg hkind⟩
  | signedDataObject | unsignedDataObject =>
    have hlevel : e.1.kind.isSignatureLevel = false := PropertyKind.isSignatureLevel_eq hg
    have hdeclare := h.declarations.follows_declareEntry hfst hcast.dataObject hplays hpos hlevel
      hplace
    simp only [entry, hg]
    rw [← Option.or_none (o := e.1.fault? (refs.map Prod.fst) (seen.map Prod.fst))]
    refine hdeclare.bind fun _ s' hs' => ⟨_, rfl, hs', ?_, ?_⟩
    · exact h.signedSignature.skip (by simp [hg])
    · exact h.unsignedSignature.skip (by simp [hg])

/-- Producing entries follows the first fault among them. -/
theorem Tracks.follows_foldlM (h : r.Tracks refs cast seen) {l : PropertyLayout}
    (hcast : cast.Fits l) (hfst : (refs.map Prod.fst).Nodup) {n : Nat}
    (hpos : ∀ f ∈ seen, f.2 < n) {entries : List LayoutEntry}
    (hplays : ∀ e ∈ entries.zipIdx n, cast.Plays e)
    (hplace : ∀ e ∈ entries, e.kind.group = e.container) :
    Follows ((entries.zipIdx n).foldlM (entry cast) r)
      (PropertyLayout.faultFrom? (refs.map Prod.fst) (seen.map Prod.fst) entries)
      fun r' => r'.Tracks refs cast (seen ++ entries.zipIdx n) := by
  induction entries generalizing seen r n with
  | nil => exact ⟨r, rfl, by rwa [List.zipIdx_nil, List.append_nil]⟩
  | cons e rest ih =>
    rw [List.zipIdx_cons] at hplays ⊢
    obtain ⟨hplays, hlater⟩ := List.forall_mem_cons.1 hplays
    obtain ⟨hplace, hrest⟩ := List.forall_mem_cons.1 hplace
    have hne : ∀ f ∈ seen, f.2 ≠ (e, n).2 := fun f hf => Nat.ne_of_lt (hpos f hf)
    have hnext : ∀ f ∈ seen ++ [(e, n)], f.2 < n + 1 := by
      refine List.forall_mem_append.2 ⟨fun f hf => ?_, List.forall_mem_singleton.2 ?_⟩
      · exact Nat.lt_succ_of_lt (hpos f hf)
      · exact Nat.lt_succ_self n
    rw [List.foldlM_cons, PropertyLayout.faultFrom?]
    refine (h.follows_entry hcast hfst hplays hne hplace).bind fun _ r' hr' => ?_
    have hfollows := ih hr' hnext hlater hrest
    rwa [List.map_append, List.map_singleton, List.append_assoc, List.singleton_append] at hfollows

/-! ## The start -/

/-- The references with the numbers that they are given. -/
def numbered (references : List String) (first : Nat) : List (String × DataObjectId) :=
  (references.zipIdx first).map fun r => (r.1, ⟨r.2⟩)

theorem fst_numbered (references : List String) (first : Nat) :
    (numbered references first).map Prod.fst = references := by
  simp [numbered, Function.comp_def, List.map_map]

/-- Describing data objects adds descriptions without properties. -/
theorem run_describeAs (uri : String → String) (references : List String) (s : Declarations) :
    s.run (references.map fun r => .describeAs r (uri r)) =
      { s with
        nextDataObject := s.nextDataObject + references.length
        descriptions := s.descriptions ++ (references.zipIdx s.nextDataObject).map fun r =>
          { id := ⟨r.2⟩, referenceId := r.1, uri := uri r.1 } } := by
  induction references generalizing s with
  | nil => simp [Declarations.run]
  | cons r rest ih =>
    rw [List.map_cons, Declarations.run_cons, ih]
    simp [Declarations.perform, Declarations.allocate, Nat.add_assoc, Nat.add_comm 1]

theorem tracks_start (cast : Cast) (uri : String → String) (first : Nat)
    (references : List String) :
    (start uri first references).Tracks (numbered references first) cast [] := by
  have hrun : (start uri first references).declarations =
      { nextDataObject := first + references.length
        descriptions := (references.zipIdx first).map fun r =>
          { id := ⟨r.2⟩, referenceId := r.1, uri := uri r.1 }
        collections := [{}] } := by
    simp only [start, Declarations.run_append, run_describeAs]
    rfl
  have hconsistent : (start uri first references).declarations.IsConsistent :=
    (Declarations.isConsistent_start first).run _
  rw [hrun] at hconsistent
  refine ⟨?_, Bag.Lists.empty, Bag.Lists.empty⟩
  rw [hrun]
  exact
    { consistent := hconsistent
      references := by simp [numbered, Function.comp_def]
      collection := ⟨{}, rfl⟩
      held := fun p hp => by
        rcases hp with ⟨d, hd, hp⟩ | ⟨c, hc, hp⟩
        · simp only [Declarations.objects, List.flatMap_cons, List.flatMap_nil, List.append_nil,
            List.mem_map] at hd
          obtain ⟨r, -, rfl⟩ := hd
          simp [DataObjectDescription.Holds] at hp
        · obtain rfl := List.mem_singleton.1 hc
          simp [SignedDataObjects.HoldsForAll] at hp
      fresh := fun n _ => rfl
      hold := fun d hd p hp => by simp at hp
      formats := fun d hd => by
        obtain ⟨r, -, rfl⟩ := List.mem_map.1 hd
        simp }

end Reproduction

/-! ## Layouts -/

/-- **A layout is accepted exactly when its properties can be produced anew**, whatever properties
are made for its entries and whatever numbers its references get on either side. -/
theorem PropertyLayout.checkFrom_eq_ok_iff_reproduce {l : PropertyLayout}
    (hreferences : l.references.Nodup) (hplace : ∀ e ∈ l.entries, e.container = e.kind.group)
    {cast : Cast} (hcast : cast.Fits l) (uri : String → String) (first number : Nat) :
    l.checkFrom number = .ok () ↔ ∃ r, l.reproduce cast uri first = .ok r := by
  have hfst : (Reproduction.numbered l.references first).map Prod.fst = l.references :=
    Reproduction.fst_numbered l.references first
  have hfollows := (Reproduction.tracks_start cast uri first l.references).follows_foldlM hcast
    (by rw [hfst]; exact hreferences) (by simp) hcast.plays fun e he => (hplace e he).symm
  rw [hfst] at hfollows
  rw [checkFrom_eq, okUnless_eq_ok_iff]
  exact (and_iff_left rfl).trans hfollows.exists_eq_ok_iff.symm

/-- A place of production, a format and a commitment on two data objects, made one after the
other. -/
theorem exists_reproduce_of_three_entries :
    let l : PropertyLayout :=
      ⟨["a", "b"], [⟨.signatureProductionPlace, .signedSignature, []⟩,
        ⟨.dataObjectFormat, .signedDataObject, ["b"]⟩,
        ⟨.commitmentType, .signedDataObject, ["b", "a"]⟩]⟩
    l.references.Nodup ∧ (∀ e ∈ l.entries, e.container = e.kind.group) ∧
      (Cast.ofLayout l).Fits l ∧ ∃ r, l.reproduce (Cast.ofLayout l) id 1 = .ok r := by
  intro l
  have hreferences : l.references.Nodup := by decide
  have hplace : ∀ e ∈ l.entries, e.container = e.kind.group := by decide
  have hcast := Cast.fits_ofLayout l
  have hcheck : l.checkFrom 1 = .ok () := by decide +kernel
  refine ⟨hreferences, hplace, hcast, ?_⟩
  exact (PropertyLayout.checkFrom_eq_ok_iff_reproduce hreferences hplace hcast id 1 1).1 hcheck

end AdvancedSignature
