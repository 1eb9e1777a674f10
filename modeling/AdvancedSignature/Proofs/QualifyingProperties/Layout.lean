import AdvancedSignature.Proofs.Layout.Replay
import AdvancedSignature.Proofs.QualifyingProperties.Contents

/-!
# The layout of a produced signature

A signature that is produced can be looked at as one that was found: `QualifyingProperties.layout`
lists its properties with the references that they point at.

* `QualifyingProperties.IsAbout`: the properties are about the data objects of a collection, and
  `IsAbout.layout_eq` says what their layout is.
* `QualifyingProperties.IsLegal` is what the rules of structure come to for such properties
  (`IsAbout.fault?_layout_eq_none_iff`).
* `QualifyingProperties.IsProducedFor` is what assembling makes of a settled collection, and what
  later additions to the signature keep; such properties are legal.
-/

namespace AdvancedSignature

/-! ## Layouts -/

namespace LayoutEntry

theorem pointee_hash (reference : String) : pointee ("#" ++ reference) = reference := by
  simp [pointee]

/-- Pointing at data objects one after the other. -/
theorem foldl_withTarget_referenceId (e : LayoutEntry) (os : List DataObjectDescription) :
    os.foldl (fun e o => e.withTarget ("#" ++ o.referenceId)) e =
      { e with targets := e.targets ++ os.map DataObjectDescription.referenceId } := by
  rw [← List.foldl_map, foldl_withTarget, List.map_map]
  simp only [Function.comp_def, pointee_hash]

end LayoutEntry

namespace QualifyingProperty

/-- The entry of a property of a signature over the data objects.  A data-object property points
at the references of its targets, in the order in which they were attached. -/
def layoutEntry (objects : SignedDataObjects) (table : TargetTable) (p : QualifyingProperty) :
    Except Error LayoutEntry :=
  let start : LayoutEntry := { kind := p.kind, container := p.container }
  match p.dataObject? with
  | none => .ok start
  | some d => do
      let targets ← objects.resolveTargets (table.targetSet d)
      return targets.foldl (fun e o => e.withTarget ("#" ++ o.referenceId)) start

/-- The references that a property points at. -/
def targetsIn (objects : SignedDataObjects) (table : TargetTable) (p : QualifyingProperty) :
    List String :=
  match p.dataObject? with
  | none => []
  | some d => (objects.targetsOf table d).map DataObjectDescription.referenceId

/-- The entry of a property whose targets are there. -/
def entryIn (objects : SignedDataObjects) (table : TargetTable) (p : QualifyingProperty) :
    LayoutEntry :=
  ⟨p.kind, p.container, p.targetsIn objects table⟩

/-- The data objects that a property has been attached to. -/
def targets (table : TargetTable) (p : QualifyingProperty) : List DataObjectId :=
  match p.dataObject? with
  | none => []
  | some d => table.ofProperty d

variable {c : SignedDataObjects} {t : TargetTable} {p p' : QualifyingProperty}

theorem kind_of_dataObject? {d : DataObjectProperty} (h : p.dataObject? = some d) :
    p.kind = d.kind := by
  cases p <;> cases h <;> rfl

/-- A property of the signature is in the container of its kind. -/
theorem group_kind_of_signature (h : p.dataObject? = none) : p.kind.group = p.container := by
  cases p with
  | signedSignature p => exact p.group_kind
  | unsignedSignature p => exact p.group_kind
  | signedDataObject | unsignedDataObject => cases h

theorem targets_of_dataObject? {d : DataObjectProperty} (h : p.dataObject? = some d) :
    p.targets t = t.ofProperty d := by
  simp only [targets, h]

theorem targets_of_signature (h : p.dataObject? = none) : p.targets t = [] := by
  simp only [targets, h]

theorem layoutEntry_eq (hp : c.Includes (p.targets t)) :
    p.layoutEntry c t = .ok (p.entryIn c t) := by
  unfold layoutEntry entryIn targetsIn
  cases hd : p.dataObject? with
  | none => rfl
  | some d =>
    rw [targets_of_dataObject? hd] at hp
    simp only [hp.resolveTargets_eq.1, ok_bind, LayoutEntry.foldl_withTarget_referenceId,
      List.nil_append]
    rfl

/-- The references are those of data objects of the collection, in the order of the targets. -/
theorem exists_objects_of_includes (hp : c.Includes (p.targets t)) :
    ∃ os ⊆ c.objects, os.map DataObjectDescription.id = p.targets t ∧
      os.map DataObjectDescription.referenceId = p.targetsIn c t := by
  unfold targetsIn
  cases hd : p.dataObject? with
  | none => exact ⟨[], List.nil_subset _, (targets_of_signature hd).symm, rfl⟩
  | some d =>
    rw [targets_of_dataObject? hd] at hp ⊢
    refine ⟨c.targetsOf t d, fun o ho => ?_, hp.resolveTargets_eq.2, rfl⟩
    exact SignedDataObjects.IsSettled.mem_objects ho

theorem nodup_targets (ht : t.IsConsistent) (p : QualifyingProperty) : (p.targets t).Nodup := by
  unfold targets
  cases p.dataObject? with
  | none => exact List.nodup_nil
  | some d => exact (ht d).nodup

/-- As many targets as the kind allows are attached when there is one where one is needed. -/
theorem allowsTargets_targets_iff (ht : t.IsConsistent) (p : QualifyingProperty) :
    p.kind.AllowsTargets (p.targets t).length ↔ (p.kind.NeedsTarget → p.targets t ≠ []) := by
  have hbound : (p.kind.multiplicity = .all → (p.targets t).length = 0) ∧
      (p.kind.multiplicity = .one → (p.targets t).length ≤ 1) := by
    cases hd : p.dataObject? with
    | none =>
      rw [targets_of_signature hd]
      exact ⟨fun _ => rfl, fun _ => Nat.zero_le 1⟩
    | some d =>
      rw [kind_of_dataObject? hd, targets_of_dataObject? hd]
      -- a property of a catch-all kind may choose a stricter multiplicity, its kind asks nothing
      by_cases hother : d.kind.isOther = true
      · revert hother
        cases d.kind <;> simp [PropertyKind.isOther, PropertyKind.multiplicity,
          PropertyKind.multiplicity?]
      · rw [← DataObjectProperty.multiplicity_eq (by simpa using hother)]
        exact ⟨fun hall => by rw [ht.eq_nil hall]; rfl, fun hone => (ht d).length_le hone⟩
  rw [PropertyKind.allowsTargets_iff_needsTarget hbound.1 hbound.2, ne_eq,
    List.length_eq_zero_iff]

/-- The properties do not present the data of one data object twice. -/
def FormatsApart (t : TargetTable) (p p' : QualifyingProperty) : Prop :=
  p.kind = .dataObjectFormat → p'.kind = .dataObjectFormat →
    (p.targets t).Disjoint (p'.targets t)

theorem FormatsApart.symm (h : FormatsApart t p p') : FormatsApart t p' p :=
  fun hkind' hkind _ hid' hid => h hkind hkind' hid hid'

end QualifyingProperty

namespace QualifyingProperties

/-- The properties of a signature over the data objects as a layout. -/
def layout (q : QualifyingProperties) (objects : SignedDataObjects) (table : TargetTable) :
    Except Error PropertyLayout := do
  let entries ← q.properties.mapM (QualifyingProperty.layoutEntry objects table)
  return { references := objects.referenceIds, entries }

variable {c : SignedDataObjects} {t : TargetTable} {q : QualifyingProperties}
  {p p' : QualifyingProperty}

/-! ## Properties about a collection -/

/-- The collection, the targets and the containers are consistent, and every property targets data
objects of the collection only. -/
structure IsAbout (c : SignedDataObjects) (t : TargetTable) (q : QualifyingProperties) : Prop where
  ids : (c.objects.map DataObjectDescription.id).Nodup
  referenceIds : c.referenceIds.Nodup
  table : t.IsConsistent
  consistent : q.IsConsistent
  included : ∀ p ∈ q.properties, c.Includes (p.targets t)

/-- The properties keep the rules: each is in the container of its kind and has a target if it
needs one, and no data object has two formats. -/
structure IsLegal (t : TargetTable) (q : QualifyingProperties) : Prop where
  inPlace : ∀ p ∈ q.properties, p.kind.group = p.container
  targeted : ∀ p ∈ q.properties, p.kind.NeedsTarget → p.targets t ≠ []
  formats : ∀ p ∈ q.properties, ∀ p' ∈ q.properties, p ≠ p' →
    QualifyingProperty.FormatsApart t p p'

namespace IsAbout

theorem layout_eq (hq : q.IsAbout c t) :
    q.layout c t = .ok ⟨c.referenceIds, q.properties.map (QualifyingProperty.entryIn c t)⟩ := by
  have hentries := mapM_eq_ok_map fun p hp =>
    QualifyingProperty.layoutEntry_eq (hq.included p hp)
  rw [layout, hentries]
  rfl

theorem isSound_entryIn_iff (hq : q.IsAbout c t) (hp : p ∈ q.properties) :
    (p.entryIn c t).IsSound c.referenceIds ↔
      p.kind.group = p.container ∧ (p.kind.NeedsTarget → p.targets t ≠ []) := by
  obtain ⟨os, hos, hids, hreferences⟩ :=
    QualifyingProperty.exists_objects_of_includes (hq.included p hp)
  have hlength : (p.targets t).length = (p.targetsIn c t).length := by
    rw [← hids, ← hreferences, List.length_map, List.length_map]
  have hallowed := QualifyingProperty.allowsTargets_targets_iff hq.table p
  rw [hlength] at hallowed
  have hnodup := QualifyingProperty.nodup_targets hq.table p
  constructor
  · exact fun h => ⟨h.inPlace.symm, hallowed.1 h.allowed⟩
  · rintro ⟨hplace, htargeted⟩
    refine ⟨hplace.symm, fun _ => ?_, fun _ => ?_, hallowed.2 htargeted⟩
    · change p.targetsIn c t ⊆ c.referenceIds
      rw [← hreferences]
      exact List.map_subset _ hos
    · change (p.targetsIn c t).Nodup
      rw [← hids] at hnodup
      rw [← hreferences]
      refine hnodup.of_map.map_on fun o ho o' ho' => ?_
      exact List.inj_on_of_nodup_map hq.referenceIds (hos ho) (hos ho')

/-- Two formats are at odds about a reference when they have a target in common. -/
theorem formatsApart_iff (hq : q.IsAbout c t) (hp : p ∈ q.properties) (hp' : p' ∈ q.properties) :
    QualifyingProperty.FormatsApart t p p' ↔
      ∀ reference, ¬ ((p.entryIn c t).Formats reference ∧ (p'.entryIn c t).Formats reference) := by
  obtain ⟨os, hos, hids, hreferences⟩ :=
    QualifyingProperty.exists_objects_of_includes (hq.included p hp)
  obtain ⟨os', hos', hids', hreferences'⟩ :=
    QualifyingProperty.exists_objects_of_includes (hq.included p' hp')
  have hdisjoint : (p.targets t).Disjoint (p'.targets t) ↔
      (p.targetsIn c t).Disjoint (p'.targetsIn c t) := by
    rw [← hids, ← hids', ← hreferences, ← hreferences', disjoint_map_key_iff hq.ids hos hos',
      disjoint_map_key_iff hq.referenceIds hos hos']
  rw [QualifyingProperty.FormatsApart, hdisjoint]
  constructor
  · rintro h reference ⟨⟨hkind, hmem⟩, hkind', hmem'⟩
    exact h hkind hkind' hmem hmem'
  · exact fun h hkind hkind' reference hmem hmem' => h reference ⟨⟨hkind, hmem⟩, hkind', hmem'⟩

/-- Nothing is wrong with the layout exactly if the properties keep the rules. -/
theorem fault?_layout_eq_none_iff (hq : q.IsAbout c t) :
    PropertyLayout.fault? ⟨c.referenceIds, q.properties.map (QualifyingProperty.entryIn c t)⟩ =
      none ↔ q.IsLegal t := by
  rw [PropertyLayout.fault?_eq_none_iff, List.forall_mem_map, List.pairwise_map]
  have hsound : (∀ p ∈ q.properties, (p.entryIn c t).IsSound c.referenceIds) ↔
      ∀ p ∈ q.properties,
        p.kind.group = p.container ∧ (p.kind.NeedsTarget → p.targets t ≠ []) :=
    forall₂_congr fun p hp => hq.isSound_entryIn_iff hp
  rw [hsound]
  constructor
  · rintro ⟨h, hpairwise⟩
    refine ⟨fun p hp => (h p hp).1, fun p hp => (h p hp).2, fun p hp p' hp' hne => ?_⟩
    have hsymm : Std.Symm (QualifyingProperty.FormatsApart t) := ⟨fun _ _ h => h.symm⟩
    have hformats : q.properties.Pairwise (QualifyingProperty.FormatsApart t) :=
      hpairwise.imp_of_mem fun hp hp' hcompatible =>
        (hq.formatsApart_iff hp hp').2 hcompatible.formats
    exact hformats.forall hp hp' hne
  · intro h
    refine ⟨fun p hp => ⟨h.inPlace p hp, h.targeted p hp⟩, ?_⟩
    refine hq.consistent.nodup_properties.pairwise_of_forall_ne fun p hp p' hp' hne => ?_
    have hformats := (hq.formatsApart_iff hp hp').1 (h.formats p hp p' hp' hne)
    refine ⟨fun hlevel hput hkind => hne ?_, hformats⟩
    replace hkind : p.kind = p'.kind := hkind
    replace hlevel : p'.kind.isSignatureLevel = true := hlevel
    have hcontainer : p.container = p'.container := by
      rw [← h.inPlace p hp, ← h.inPlace p' hp', hkind]
    rw [PropertyKind.isSignatureLevel_eq (h.inPlace p' hp'), ← hcontainer] at hlevel
    exact hq.consistent.eq_of_kind hp hp' hcontainer hlevel hkind (hkind ▸ hput)

end IsAbout

/-! ## Produced signatures -/

/-- The containers are disciplined, and the data-object properties are those of the data
objects. -/
structure IsProducedFor (c : SignedDataObjects) (t : TargetTable) (q : QualifyingProperties) :
    Prop where
  settled : c.IsSettled t
  disciplined : q.IsDisciplined
  signedDataObjects : q.signedDataObjects = c.signedProperties
  unsignedDataObjects : q.unsignedDataObjects = c.unsignedProperties

namespace IsProducedFor

theorem addEach (hq : q.IsProducedFor c t) {ps : List QualifyingProperty}
    (hps : ∀ p ∈ ps, p.container.isSignatureLevel = true) : (q.addEach ps).IsProducedFor c t where
  settled := hq.settled
  disciplined := hq.disciplined.addEach ps
  signedDataObjects := (addEach_dataObjects hps).1.trans hq.signedDataObjects
  unsignedDataObjects := (addEach_dataObjects hps).2.trans hq.unsignedDataObjects

/-- A data-object property is held, and it is among the unsigned ones if its kind is the unsigned
one. -/
theorem holds (hq : q.IsProducedFor c t) (hp : p ∈ q.properties) {d : DataObjectProperty}
    (hd : p.dataObject? = some d) :
    c.Holds d ∧ p.container =
      if d.kind = .otherUnsignedDataObject then .unsignedDataObject else .signedDataObject := by
  have hmem := mem_contents.1 (mem_properties.1 hp)
  cases p with
  | signedSignature | unsignedSignature => cases hd
  | signedDataObject =>
    cases hd
    obtain ⟨hholds, hkind⟩ := hq.settled.kind_of_mem_signed (hq.signedDataObjects ▸ hmem)
    exact ⟨hholds, (if_neg hkind).symm⟩
  | unsignedDataObject =>
    cases hd
    obtain ⟨hholds, hkind⟩ := hq.settled.kind_of_mem_unsigned (hq.unsignedDataObjects ▸ hmem)
    exact ⟨hholds, (if_pos hkind).symm⟩

theorem isAbout (hq : q.IsProducedFor c t) : q.IsAbout c t where
  ids := hq.settled.ids
  referenceIds := hq.settled.collection.referenceIds
  table := hq.settled.table
  consistent :=
    { hq.disciplined with
      signedDataObjects := hq.signedDataObjects ▸ InstanceList.nodup_ofList _
      unsignedDataObjects := hq.unsignedDataObjects ▸ InstanceList.nodup_ofList _ }
  included p hp id hid := by
    cases hd : p.dataObject? with
    | none => simp [QualifyingProperty.targets_of_signature hd] at hid
    | some d =>
      rw [QualifyingProperty.targets_of_dataObject? hd,
        ← hq.settled.ids_targetsOf (hq.holds hp hd).1] at hid
      obtain ⟨o, ho, rfl⟩ := List.mem_map.1 hid
      exact ⟨o, SignedDataObjects.IsSettled.mem_objects ho, rfl⟩

/-- A format targets data objects that hold it. -/
theorem formatsApart (hq : q.IsProducedFor c t) (hp : p ∈ q.properties) (hp' : p' ∈ q.properties)
    (hne : p ≠ p') : QualifyingProperty.FormatsApart t p p' := by
  have hformat {p : QualifyingProperty} (hp : p ∈ q.properties) (hkind : p.kind = .dataObjectFormat)
      {id : DataObjectId} (hid : id ∈ p.targets t) :
      ∃ d, p = .signedDataObject d ∧ d.kind = .dataObjectFormat ∧
        ∃ o ∈ c.objects, o.id = id ∧ d ∈ o.signed.entries := by
    cases hd : p.dataObject? with
    | none => simp [QualifyingProperty.targets_of_signature hd] at hid
    | some d =>
      rw [QualifyingProperty.kind_of_dataObject? hd] at hkind
      obtain ⟨hholds, hcontainer⟩ := hq.holds hp hd
      rw [hkind] at hcontainer
      rw [QualifyingProperty.targets_of_dataObject? hd, ← hq.settled.ids_targetsOf hholds] at hid
      obtain ⟨o, ho, rfl⟩ := List.mem_map.1 hid
      have hheld := hq.settled.mem_signed_of_format hholds hkind ho
      cases p <;> cases hcontainer
      cases hd
      exact ⟨d, rfl, hkind, o, SignedDataObjects.IsSettled.mem_objects ho, rfl, hheld⟩
  intro hkind hkind' id hid hid'
  -- the data object would hold both formats in one bag
  obtain ⟨d, rfl, hkind, o, ho, rfl, hheld⟩ := hformat hp hkind hid
  obtain ⟨d', rfl, hkind', o', ho', heq, hheld'⟩ := hformat hp' hkind' hid'
  obtain rfl : o' = o := List.inj_on_of_nodup_map hq.settled.ids ho' ho heq
  have hput : d.kind.insertionPolicy = .put := by
    rw [hkind]
    rfl
  refine hne (congrArg _ ?_)
  exact (hq.settled.objects o' ho).signed.eq_of_kind hheld hheld' (hkind.trans hkind'.symm) hput

/-- What is produced keeps the rules. -/
theorem isLegal (hq : q.IsProducedFor c t) : q.IsLegal t where
  inPlace p hp := by
    cases hd : p.dataObject? with
    | none => exact QualifyingProperty.group_kind_of_signature hd
    | some d =>
      obtain ⟨hholds, hcontainer⟩ := hq.holds hp hd
      rw [QualifyingProperty.kind_of_dataObject? hd, hcontainer]
      exact (hq.settled.wellMade d hholds).group_kind
  targeted p hp := by
    refine (QualifyingProperty.allowsTargets_targets_iff hq.settled.table p).1 ?_
    cases hd : p.dataObject? with
    | none =>
      rw [QualifyingProperty.targets_of_signature hd]
      cases p with
      | signedSignature p =>
        obtain ⟨id, content⟩ := p
        cases content <;> trivial
      | unsignedSignature p =>
        obtain ⟨id, content⟩ := p
        cases content <;> trivial
      | signedDataObject | unsignedDataObject => cases hd
    | some d =>
      have hholds := (hq.holds hp hd).1
      rw [QualifyingProperty.kind_of_dataObject? hd, QualifyingProperty.targets_of_dataObject? hd,
        ← hq.settled.ids_targetsOf hholds, List.length_map]
      exact hq.settled.allowsTargets hholds
  formats _ hp _ hp' hne := hq.formatsApart hp hp' hne

/-- The layout is there, and nothing is wrong with it. -/
theorem fault?_eq_none (hq : q.IsProducedFor c t) :
    ∃ l, q.layout c t = .ok l ∧ l.fault? = none ∧ l.kinds = q.kinds := by
  refine ⟨_, hq.isAbout.layout_eq, hq.isAbout.fault?_layout_eq_none_iff.2 hq.isLegal, ?_⟩
  rw [PropertyLayout.kinds, List.map_map]
  rfl

end IsProducedFor

/-- A data-object property that is assembled is held in the collection, and its targets are there. -/
theorem holds_of_assemble {collector : Collector} {id : InstanceId}
    {certificate : SigningCertificate} {policy : Option SignaturePolicy}
    (hq : assemble collector c t id certificate policy = .ok q) (hp : p ∈ q.properties)
    {d : DataObjectProperty} (hd : p.dataObject? = some d) :
    c.Holds d ∧ c.Includes (t.ofProperty d) := by
  obtain ⟨_, hchecked, hq⟩ := bind_eq_ok_iff.1 hq
  obtain ⟨_, -, hq⟩ := bind_eq_ok_iff.1 hq
  cases hq
  have hmem := mem_contents.1 (mem_properties.1 hp)
  have hholds : c.Holds d := by
    cases p with
    | signedSignature | unsignedSignature => cases hd
    | signedDataObject =>
      cases hd
      exact SignedDataObjects.holds_iff_mem.2 (Or.inl hmem)
    | unsignedDataObject =>
      cases hd
      exact SignedDataObjects.holds_iff_mem.2 (Or.inr hmem)
  rcases c.checkTargets_cases t with ⟨-, hincludes⟩ | ⟨e, he, -⟩
  · exact ⟨hholds, hincludes d hholds⟩
  · rw [hchecked] at he
    cases he

/-- What a run of declarations and a collector are assembled to is produced for the collection. -/
theorem isProducedFor_of_assemble {s : Declarations} (hs : s.IsConsistent)
    (hmade : ∀ p, s.Holds p → p.IsWellMade) {objects : SignedDataObjects}
    (hobjects : objects ∈ s.collections) {collector : Collector}
    (hcollector : collector.IsDisciplined) {id : InstanceId} {certificate : SigningCertificate}
    {policy : Option SignaturePolicy} {q : QualifyingProperties}
    (hq : assemble collector objects s.table id certificate policy = .ok q) :
    q.IsProducedFor objects s.table := by
  obtain ⟨hdisciplined, hchecked, hsigned, hunsigned⟩ := of_assemble hcollector hq
  exact ⟨hs.isSettled hobjects hmade hchecked, hdisciplined, hsigned, hunsigned⟩

/-- **The check accepts whatever is produced**, and finds the form that it was given.  The
declarations may come in any order and share properties, accepted or refused; the collector may
hold anything, and signature-level properties may be added after the assembly. -/
theorem layout_checkFrom_eq_ok {actions : List Action}
    (hmade : ∀ a ∈ actions, ∀ p, a.declared? = some p → p.IsWellMade)
    {objects : SignedDataObjects}
    (hobjects : objects ∈ (({} : Declarations).run actions).collections)
    {next : Nat} {requests : List CollectorRequest} {id : InstanceId}
    {certificate : SigningCertificate} {policy : Option SignaturePolicy}
    {q : QualifyingProperties}
    (hq : assemble (Collector.collectAll {} next requests) objects
      (({} : Declarations).run actions).table id certificate policy = .ok q)
    {additions : List QualifyingProperty}
    (hadditions : ∀ p ∈ additions, p.container.isSignatureLevel = true) :
    ∃ l, (q.addEach additions).layout objects (({} : Declarations).run actions).table = .ok l ∧
      (∀ first, l.checkFrom first = .ok ()) ∧
      SignatureForm.detect? l.kinds = (q.addEach additions).form? := by
  have hstart : ({} : Declarations).IsConsistent := Declarations.isConsistent_start 1
  have hheld : ∀ p, (({} : Declarations).run actions).Holds p → p.IsWellMade := by
    intro p hp
    rcases hstart.holds_of_run hp with (⟨d, hd, -⟩ | ⟨c, hc, -⟩) | ⟨a, ha, hdeclared⟩
    · simp [Declarations.objects] at hd
    · simp at hc
    · exact hmade a ha p hdeclared
  have hcollector := Collector.isDisciplined_empty.collectAll next requests
  have hproduced :=
    (isProducedFor_of_assemble (hstart.run actions) hheld hobjects hcollector hq).addEach hadditions
  obtain ⟨l, hl, hfault, hkinds⟩ := hproduced.fault?_eq_none
  refine ⟨l, hl, fun first => ?_, ?_⟩
  · rw [PropertyLayout.checkFrom_eq, hfault, okUnless_none]
  · rw [hkinds]
    rfl

/-- Two data objects with a commitment that they share, a time-stamp on both, and a format that
only the first one gets. -/
theorem exists_layout_of_two_objects :
    let format : DataObjectProperty := ⟨⟨0⟩, .format { mimeType := some "text/plain" }⟩
    let commitment : DataObjectProperty := ⟨⟨1⟩, .commitment { uri := "approval" }⟩
    let stamp : DataObjectProperty := ⟨⟨2⟩, .timeStamp ⟨.allDataObjects, ⟨"c14n", []⟩⟩⟩
    let actions : List Action :=
      [.describeAs "a" "a.txt", .describeAs "b" "b.txt", .openCollection, .declare ⟨1⟩ format,
        .declare ⟨2⟩ format, .declare ⟨2⟩ commitment, .declare ⟨1⟩ commitment, .register ⟨1⟩ 0,
        .register ⟨2⟩ 0, .declareForAll 0 stamp]
    ∃ objects q l, objects ∈ (({} : Declarations).run actions).collections ∧
      assemble (Collector.collectAll {} 3 [.counterSignature "<a/>"]) objects
        (({} : Declarations).run actions).table ⟨4⟩ ⟨[]⟩ none = .ok q ∧
      (q.addEach [.unsignedSignature ⟨⟨5⟩, .signatureTimeStamp ⟨"c14n", []⟩⟩]).layout objects
        (({} : Declarations).run actions).table = .ok l ∧
      l.checkFrom 1 = .ok () := by
  intro format commitment stamp actions
  have hmade : ∀ a ∈ actions, ∀ p, a.declared? = some p → p.IsWellMade := by
    simp [actions, Action.declared?, DataObjectProperty.IsWellMade, format, commitment, stamp,
      DataObjectProperty.timeStamp?]
  obtain ⟨objects, hobjects, hok⟩ :
      ∃ objects ∈ (({} : Declarations).run actions).collections,
        (assemble (Collector.collectAll {} 3 [.counterSignature "<a/>"]) objects
          (({} : Declarations).run actions).table ⟨4⟩ ⟨[]⟩ none).isOk = true := by
    decide +kernel
  cases hq : assemble (Collector.collectAll {} 3 [.counterSignature "<a/>"]) objects
      (({} : Declarations).run actions).table ⟨4⟩ ⟨[]⟩ none with
  | error e =>
    rw [hq] at hok
    cases hok
  | ok q =>
    have hadditions : ∀ p ∈ [QualifyingProperty.unsignedSignature
        ⟨⟨5⟩, .signatureTimeStamp ⟨"c14n", []⟩⟩], p.container.isSignatureLevel = true := by
      simp [QualifyingProperty.container, PropertyGroup.isSignatureLevel]
    obtain ⟨l, hl, hcheck, -⟩ := layout_checkFrom_eq_ok hmade hobjects hq hadditions
    exact ⟨objects, q, l, hobjects, hq, hl, hcheck 1⟩

end QualifyingProperties

end AdvancedSignature
