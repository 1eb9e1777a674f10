import AdvancedSignature.Proofs.QualifyingProperties.Layout

/-!
# Additions and the rules of structure

Later forms add properties to containers that look at no targets: a container takes in what is not
there yet, and one of the signature looks at the kind as well.  Whether the layout is still
accepted afterwards depends on what was added.

* `QualifyingProperty.FitsIn` says when a property keeps the rules among those that are there.
* `QualifyingProperties.ExtendsBy.isLegal_iff` is about one addition, `IsAbout.addEach` about many.
* `QualifyingProperties.checkFrom_addEach_iff`: the layout is accepted after additions exactly if
  it was before and every property that was taken in fitted in.
-/

namespace AdvancedSignature

/-- The property keeps the rules among those that are there: it is in the container of its kind, it
has a target if it needs one, and it is not the second format of a data object. -/
structure QualifyingProperty.FitsIn (t : TargetTable) (q : QualifyingProperties)
    (p : QualifyingProperty) : Prop where
  inPlace : p.kind.group = p.container
  targeted : p.kind.NeedsTarget → p.targets t ≠ []
  formats : ∀ p' ∈ q.properties, FormatsApart t p p'

namespace QualifyingProperties

variable {c : SignedDataObjects} {t : TargetTable} {q q' : QualifyingProperties}
  {p p' : QualifyingProperty}

/-! ## One addition -/

theorem ExtendsBy.mem_properties (h : q.ExtendsBy q' p) :
    p' ∈ q'.properties ↔ p' ∈ q.properties ∨ p' = p := by
  rw [QualifyingProperties.mem_properties, QualifyingProperties.mem_properties, h p'.container,
    List.mem_append]
  refine or_congr_right ?_
  by_cases hcontainer : p.container = p'.container
  · rw [if_pos hcontainer, List.mem_singleton]
  · rw [if_neg hcontainer]
    exact iff_of_false List.not_mem_nil fun heq => hcontainer (heq ▸ rfl)

/-- The properties keep the rules with one more exactly if they did before and it fits in. -/
theorem ExtendsBy.isLegal_iff (h : q.ExtendsBy q' p) (hp : p ∉ q.properties) :
    q'.IsLegal t ↔ q.IsLegal t ∧ p.FitsIn t q := by
  have hold {p' : QualifyingProperty} (hp' : p' ∈ q.properties) : p' ∈ q'.properties :=
    h.mem_properties.2 (Or.inl hp')
  have hnew : p ∈ q'.properties := h.mem_properties.2 (Or.inr rfl)
  constructor
  · intro hlegal
    refine ⟨⟨fun p' hp' => hlegal.inPlace p' (hold hp'), fun p' hp' => hlegal.targeted p' (hold hp'),
      fun p₁ hp₁ p₂ hp₂ => hlegal.formats p₁ (hold hp₁) p₂ (hold hp₂)⟩,
      hlegal.inPlace p hnew, hlegal.targeted p hnew, fun p' hp' => ?_⟩
    exact hlegal.formats p hnew p' (hold hp') fun heq => hp (heq ▸ hp')
  · rintro ⟨hlegal, hfits⟩
    refine ⟨fun p' hp' => ?_, fun p' hp' => ?_, fun p₁ hp₁ p₂ hp₂ hne => ?_⟩
    · rcases h.mem_properties.1 hp' with hp' | rfl
      · exact hlegal.inPlace p' hp'
      · exact hfits.inPlace
    · rcases h.mem_properties.1 hp' with hp' | rfl
      · exact hlegal.targeted p' hp'
      · exact hfits.targeted
    · rcases h.mem_properties.1 hp₁ with hp₁ | rfl
      · rcases h.mem_properties.1 hp₂ with hp₂ | rfl
        · exact hlegal.formats p₁ hp₁ p₂ hp₂ hne
        · exact (hfits.formats p₁ hp₁).symm
      · rcases h.mem_properties.1 hp₂ with hp₂ | rfl
        · exact hfits.formats p₂ hp₂
        · exact absurd rfl hne

theorem IsAbout.extend (hq : q.IsAbout c t) (hq' : q'.IsConsistent) (h : q.ExtendsBy q' p)
    (hp : c.Includes (p.targets t)) : q'.IsAbout c t :=
  { hq with
    consistent := hq'
    included := fun p' hp' => by
      rcases h.mem_properties.1 hp' with hp' | rfl
      · exact hq.included p' hp'
      · exact hp }

/-! ## Additions in a row -/

/-- Every property that is taken in fits in when its turn comes. -/
def EachFits (t : TargetTable) (q : QualifyingProperties) (ps : List QualifyingProperty) : Prop :=
  ∀ before p after, ps = before ++ p :: after →
    ∀ q', (q.addEach before).add p = .ok q' → p.FitsIn t (q.addEach before)

theorem eachFits_cons {ps : List QualifyingProperty} :
    q.EachFits t (p :: ps) ↔
      (∀ q', q.add p = .ok q' → p.FitsIn t q) ∧ (q.addEach [p]).EachFits t ps := by
  constructor
  · intro h
    refine ⟨h [] p ps rfl, fun before p' after hps => ?_⟩
    exact h (p :: before) p' after (congrArg _ hps)
  · rintro ⟨hfirst, hrest⟩ before p' after hps
    cases before with
    | nil =>
      obtain ⟨rfl, rfl⟩ := List.cons.inj hps
      exact hfirst
    | cons _ before =>
      obtain ⟨rfl, hps'⟩ := List.cons.inj hps
      exact hrest before p' after hps'

/-- Properties about the collection keep the rules after additions exactly if they did before and
what was taken in fitted in. -/
theorem IsAbout.addEach (hq : q.IsAbout c t) {ps : List QualifyingProperty}
    (hps : ∀ p ∈ ps, c.Includes (p.targets t)) :
    (q.addEach ps).IsAbout c t ∧
      ((q.addEach ps).IsLegal t ↔ q.IsLegal t ∧ q.EachFits t ps) := by
  induction ps generalizing q with
  | nil => exact ⟨hq, (and_iff_left fun before p after h => by simp at h).symm⟩
  | cons p rest ih =>
    obtain ⟨hp, hrest⟩ := List.forall_mem_cons.1 hps
    rw [eachFits_cons]
    rcases hq.consistent.add_cases p with ⟨-, e, he⟩ | ⟨hadmits, q', hadd, hq', hextends⟩
    · have hnothing : ∀ q', q.add p = .ok q' → p.FitsIn t q := by
        rw [he]
        nofun
      rw [addEach_of_error he, addEach_of_error he []]
      exact ⟨(ih hq hrest).1, (ih hq hrest).2.trans (and_congr_right' (and_iff_right hnothing).symm)⟩
    · have hnew : p ∉ q.properties := fun hmem => hadmits.1 (mem_properties.1 hmem)
      have htaken : (∀ q', q.add p = .ok q' → p.FitsIn t q) ↔ p.FitsIn t q :=
        ⟨fun h => h q' hadd, fun h _ _ => h⟩
      obtain ⟨habout, hlegal⟩ := ih (hq.extend hq' hextends hp) hrest
      rw [addEach_of_ok hadd, addEach_of_ok hadd [], htaken, ← and_assoc,
        ← hextends.isLegal_iff hnew]
      exact ⟨habout, hlegal⟩

/-! ## After assembling -/

/-- What is assembled for a collection is about its data objects. -/
theorem isAbout_of_assemble {s : Declarations} (hs : s.IsConsistent) {objects : SignedDataObjects}
    (hobjects : objects ∈ s.collections) {collector : Collector}
    (hcollector : collector.IsDisciplined) {id : InstanceId} {certificate : SigningCertificate}
    {policy : Option SignaturePolicy}
    (hq : assemble collector objects s.table id certificate policy = .ok q) :
    q.IsAbout objects s.table where
  ids := hs.ids_collection hobjects
  referenceIds := (hs.collections objects hobjects).referenceIds
  table := hs.table
  consistent := isConsistent_of_assemble hcollector hq
  included p hp := by
    cases hd : p.dataObject? with
    | none =>
      rw [QualifyingProperty.targets_of_signature hd]
      exact fun id hid => absurd hid List.not_mem_nil
    | some d =>
      rw [QualifyingProperty.targets_of_dataObject? hd]
      exact (holds_of_assemble hq hp hd).2

/-- **Additions keep a layout legal as far as they fit in.**  After any run and whatever is added to
what was assembled from it, as long as the targets of the additions are data objects of the
collection, there is a layout, and the check accepts it exactly if it accepted the one before the
additions and every property that was taken in stood where its kind belongs, had a target if it
needed one, and was not the second format of a data object. -/
theorem checkFrom_addEach_iff {actions : List Action} {objects : SignedDataObjects}
    (hobjects : objects ∈ (({} : Declarations).run actions).collections)
    {next : Nat} {requests : List CollectorRequest} {id : InstanceId}
    {certificate : SigningCertificate} {policy : Option SignaturePolicy}
    {q : QualifyingProperties}
    (hq : assemble (Collector.collectAll {} next requests) objects
      (({} : Declarations).run actions).table id certificate policy = .ok q)
    {additions : List QualifyingProperty}
    (hadditions : ∀ p ∈ additions,
      objects.Includes (p.targets (({} : Declarations).run actions).table)) :
    let table := (({} : Declarations).run actions).table
    ∃ l₀ l, q.layout objects table = .ok l₀ ∧ (q.addEach additions).layout objects table = .ok l ∧
      ∀ first, l.checkFrom first = .ok () ↔
        l₀.checkFrom first = .ok () ∧ q.EachFits table additions := by
  intro table
  have habout : q.IsAbout objects table :=
    isAbout_of_assemble ((Declarations.isConsistent_start 1).run actions) hobjects
      (Collector.isDisciplined_empty.collectAll next requests) hq
  obtain ⟨habout', hlegal⟩ := habout.addEach hadditions
  have hcheck {q : QualifyingProperties} (hq : q.IsAbout objects table) (first : Nat) :
      PropertyLayout.checkFrom first
          ⟨objects.referenceIds, q.properties.map (QualifyingProperty.entryIn objects table)⟩ =
        .ok () ↔ q.IsLegal table := by
    rw [PropertyLayout.checkFrom_eq, okUnless_eq_ok_iff, hq.fault?_layout_eq_none_iff]
    exact and_iff_left rfl
  refine ⟨_, _, habout.layout_eq, habout'.layout_eq, fun first => ?_⟩
  rw [hcheck habout', hcheck habout, hlegal]

/-- A data object without properties, and a commitment that names it and is added later. -/
theorem checkFrom_addEach_targeted :
    let commitment : DataObjectProperty := ⟨⟨0⟩, .commitment { uri := "approval" }⟩
    let state := ({} : Declarations).run
      [.describeAs "a" "a.txt", .openCollection, .register ⟨1⟩ 0, .attach commitment ⟨1⟩]
    ∃ objects ∈ state.collections, ∃ q l,
      assemble {} objects state.table ⟨1⟩ ⟨[]⟩ none = .ok q ∧
      (q.addEach [.signedDataObject commitment]).layout objects state.table = .ok l ∧
      l.checkFrom 2 = .ok () := by
  intro commitment state
  obtain ⟨objects, hobjects, hid, hok⟩ :
      ∃ objects ∈ state.collections, (∃ o ∈ objects.objects, o.id = ⟨1⟩) ∧
        (assemble {} objects state.table ⟨1⟩ ⟨[]⟩ none).map (fun q =>
          (q.layout objects state.table).map (PropertyLayout.checkFrom 2)) = .ok (.ok (.ok ())) := by
    decide +kernel
  obtain ⟨q, hq, hlayout⟩ := map_eq_ok_iff.1 hok
  obtain ⟨l₀, hl₀, hchecked⟩ := map_eq_ok_iff.1 hlayout
  have hcollected : assemble (Collector.collectAll {} 0 []) objects state.table ⟨1⟩ ⟨[]⟩ none =
      .ok q := hq
  have htargets : (QualifyingProperty.signedDataObject commitment).targets state.table = [⟨1⟩] := by
    decide +kernel
  have hincluded : ∀ p ∈ [QualifyingProperty.signedDataObject commitment],
      objects.Includes (p.targets state.table) := by
    simp only [List.forall_mem_singleton, htargets, SignedDataObjects.Includes]
    exact hid
  obtain ⟨l₀', l, hl₀', hl, hiff⟩ := checkFrom_addEach_iff hobjects hcollected hincluded
  obtain rfl : l₀ = l₀' := Except.ok.inj (hl₀.symm.trans hl₀')
  refine ⟨objects, hobjects, q, l, hq, hl, (hiff 2).2 ⟨hchecked, ?_⟩⟩
  refine eachFits_cons.2 ⟨fun _ _ => ⟨rfl, fun _ => ?_, fun _ _ => nofun⟩, fun before => by simp⟩
  rw [htargets]
  exact List.cons_ne_nil _ _

/-- A commitment that names no data object, and a second format that was attached by hand, are both
taken in, and the layout that was accepted before is not any more. -/
theorem checkFrom_addEach_untargeted :
    let format : DataObjectProperty := ⟨⟨0⟩, .format { mimeType := some "text/plain" }⟩
    let second : DataObjectProperty := ⟨⟨1⟩, .format { mimeType := some "text/html" }⟩
    let untargeted : DataObjectProperty := ⟨⟨2⟩, .commitment { uri := "approval" }⟩
    let state := ({} : Declarations).run
      [.describeAs "a" "a.txt", .openCollection, .declare ⟨1⟩ format, .register ⟨1⟩ 0,
        .attach second ⟨1⟩]
    ∃ objects ∈ state.collections, ∃ q,
      assemble {} objects state.table ⟨3⟩ ⟨[]⟩ none = .ok q ∧
      (q.layout objects state.table).map (PropertyLayout.checkFrom 2) = .ok (.ok ()) ∧
      ∀ p ∈ [(untargeted, Error.missingTarget .commitmentType),
          (second, .duplicatePropertyKind .dataObjectFormat)],
        objects.Includes (state.table.ofProperty p.1) ∧
        ∃ q', q.addSignedDataObject p.1 = .ok q' ∧
          (q'.layout objects state.table).map (PropertyLayout.checkFrom 2) = .ok (.error p.2) := by
  intro format second untargeted state
  obtain ⟨objects, hobjects, hid, hok, hadded⟩ :
      ∃ objects ∈ state.collections, (∃ o ∈ objects.objects, o.id = ⟨1⟩) ∧
        (assemble {} objects state.table ⟨3⟩ ⟨[]⟩ none).map (fun q =>
          (q.layout objects state.table).map (PropertyLayout.checkFrom 2)) = .ok (.ok (.ok ())) ∧
        ∀ p ∈ [(untargeted, Error.missingTarget .commitmentType),
            (second, .duplicatePropertyKind .dataObjectFormat)],
          (assemble {} objects state.table ⟨3⟩ ⟨[]⟩ none).map (fun q =>
            (q.addSignedDataObject p.1).map fun q' =>
              (q'.layout objects state.table).map (PropertyLayout.checkFrom 2)) =
            .ok (.ok (.ok (.error p.2))) := by
    decide +kernel
  obtain ⟨q, hq, hlayout⟩ := map_eq_ok_iff.1 hok
  refine ⟨objects, hobjects, q, hq, hlayout, fun p hp => ⟨?_, ?_⟩⟩
  · have htargets : ∀ p ∈ [(untargeted, Error.missingTarget .commitmentType),
        (second, .duplicatePropertyKind .dataObjectFormat)],
        state.table.ofProperty p.1 ⊆ [⟨1⟩] := by
      decide +kernel
    intro id hmem
    obtain rfl := List.mem_singleton.1 (htargets p hp hmem)
    exact hid
  · have hp := hadded p hp
    rw [hq] at hp
    obtain ⟨q', hq', hlayout'⟩ := map_eq_ok_iff.1 (Except.ok.inj hp)
    exact ⟨q', hq', hlayout'⟩

end QualifyingProperties

end AdvancedSignature
