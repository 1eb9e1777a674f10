import AdvancedSignature.Proofs.QualifyingProperties.Layout

/-!
# Where properties stand

A container is chosen by what is done with a property, and its kind follows from what it says.  The
two agree for all properties but one sort: a data object takes in any time-stamp among its signed
properties, also one on the signature.

* `QualifyingProperty.IsPlaced`: the property stands where its kind belongs.
* `QualifyingProperties.IsDivided.isPlaced_iff`: it does exactly if it is well made.
* `QualifyingProperties.placement_of_run`: what this means for the bags of data objects, the
  containers and the kinds that the form of a signature depends on.
-/

namespace AdvancedSignature

namespace QualifyingProperty

/-- The property stands in the container of its kind. -/
def IsPlaced (p : QualifyingProperty) : Prop := p.kind.group = p.container

instance (p : QualifyingProperty) : Decidable p.IsPlaced := inferInstanceAs (Decidable (_ = _))

/-- A time-stamp among the data-object properties is about data objects. -/
def IsWellMade (p : QualifyingProperty) : Prop := ∀ d, p.dataObject? = some d → d.IsWellMade

end QualifyingProperty

/-! ## Containers -/

namespace QualifyingProperties

variable {q : QualifyingProperties} {p : QualifyingProperty}

/-- The kinds of the properties that stand where their kinds belong. -/
def placedKinds (q : QualifyingProperties) : List PropertyKind :=
  (q.properties.filter fun p => decide p.IsPlaced).map QualifyingProperty.kind

/-- The two data-object containers hold what belongs to signed and to unsigned properties, as far
as the unsigned kind is concerned. -/
structure IsDivided (q : QualifyingProperties) : Prop where
  signed : ∀ p ∈ q.signedDataObjects.entries, p.kind ≠ .otherUnsignedDataObject
  unsigned : ∀ p ∈ q.unsignedDataObjects.entries, p.kind = .otherUnsignedDataObject

theorem IsDivided.isPlaced_iff (hq : q.IsDivided) (hp : p ∈ q.properties) :
    p.IsPlaced ↔ p.IsWellMade := by
  have hmem := mem_contents.1 (mem_properties.1 hp)
  cases p with
  | signedSignature p => exact iff_of_true p.group_kind nofun
  | unsignedSignature p => exact iff_of_true p.group_kind nofun
  | signedDataObject d =>
    refine (DataObjectProperty.group_kind_eq_signed_iff (hq.signed d hmem)).trans ?_
    exact ⟨fun h d' hd' => Option.some.inj hd' ▸ h, fun h => h d rfl⟩
  | unsignedDataObject d =>
    have hkind := hq.unsigned d hmem
    have hmade : d.IsWellMade := by
      rw [DataObjectProperty.isWellMade_iff, hkind]
      rfl
    refine iff_of_true ?_ fun d' hd' => Option.some.inj hd' ▸ hmade
    change d.kind.group = .unsignedDataObject
    rw [hkind]
    rfl

/-- A property out of its place is a time-stamp on the signature among the signed properties of
data objects. -/
theorem IsDivided.exists_stamp (hq : q.IsDivided) (hp : p ∈ q.properties) (hplaced : ¬ p.IsPlaced) :
    ∃ d stamp, p = .signedDataObject d ∧ d.timeStamp? = some stamp ∧
      p.kind = stamp.kind.kind ∧ stamp.kind.kind.group = .unsignedSignature := by
  have hmade := mt (hq.isPlaced_iff hp).2 hplaced
  have hmem := mem_contents.1 (mem_properties.1 hp)
  cases p with
  | signedSignature | unsignedSignature => exact absurd nofun hmade
  | signedDataObject d =>
    have hd : ¬ d.IsWellMade := fun h => hmade fun d' hd' => Option.some.inj hd' ▸ h
    obtain ⟨stamp, hstamp, hkind, hgroup⟩ := DataObjectProperty.exists_stamp_of_not_isWellMade hd
    exact ⟨d, stamp, rfl, hstamp, hkind, hgroup⟩
  | unsignedDataObject d =>
    refine absurd (fun d' hd' => ?_) hmade
    rw [← Option.some.inj hd', DataObjectProperty.isWellMade_iff, hq.unsigned d hmem]
    rfl

theorem mem_placedKinds {k : PropertyKind} :
    k ∈ q.placedKinds ↔ ∃ p ∈ q.properties, p.IsPlaced ∧ p.kind = k := by
  simp only [placedKinds, List.mem_map, List.mem_filter, decide_eq_true_eq, and_assoc]

/-- The kinds are those of properties in their place and of time-stamps out of it. -/
theorem IsDivided.mem_kinds_iff (hq : q.IsDivided) (k : PropertyKind) :
    k ∈ q.kinds ↔ k ∈ q.placedKinds ∨
      ∃ d stamp, .signedDataObject d ∈ q.properties ∧ d.timeStamp? = some stamp ∧
        stamp.kind.kind = k ∧ k.group = .unsignedSignature := by
  rw [kinds, List.mem_map, mem_placedKinds]
  constructor
  · rintro ⟨p, hp, rfl⟩
    by_cases hplaced : p.IsPlaced
    · exact Or.inl ⟨p, hp, hplaced, rfl⟩
    · obtain ⟨d, stamp, rfl, hstamp, hkind, hgroup⟩ := hq.exists_stamp hp hplaced
      exact Or.inr ⟨d, stamp, hp, hstamp, hkind.symm, hkind ▸ hgroup⟩
  · rintro (⟨p, hp, -, hkind⟩ | ⟨d, stamp, hp, hstamp, hkind, -⟩)
    · exact ⟨p, hp, hkind⟩
    · exact ⟨_, hp, (DataObjectProperty.kind_of_timeStamp? hstamp).trans hkind⟩

theorem placedKinds_eq (h : ∀ p ∈ q.properties, p.IsPlaced) : q.placedKinds = q.kinds := by
  have hall : (q.properties.filter fun p => decide p.IsPlaced) = q.properties :=
    List.filter_eq_self.2 fun p hp => decide_eq_true (h p hp)
  rw [placedKinds, hall, kinds]

/-- The containers of what is assembled are divided as the bags of the data objects are. -/
theorem isDivided_of_assemble {s : Declarations} (hs : s.IsConsistent) {objects : SignedDataObjects}
    (hobjects : objects ∈ s.collections) {collector : Collector}
    (hcollector : collector.IsDisciplined) {table : TargetTable} {id : InstanceId}
    {certificate : SigningCertificate} {policy : Option SignaturePolicy}
    (hq : assemble collector objects table id certificate policy = .ok q) : q.IsDivided := by
  obtain ⟨-, -, hsigned, hunsigned⟩ := of_assemble hcollector hq
  have hobject {o : DataObjectDescription} (ho : o ∈ objects.objects) : o.IsConsistent s.table :=
    hs.objects o (List.mem_append_right _ (List.mem_flatMap.2 ⟨objects, hobjects, ho⟩))
  have hforAll := (hs.collections objects hobjects).forAll
  refine ⟨fun p hp => ?_, fun p hp => ?_⟩
  · rw [hsigned, SignedDataObjects.mem_signedProperties] at hp
    rcases hp with ⟨o, ho, hp⟩ | hp
    · exact (hobject ho).kind_signed p hp
    · exact hforAll.kind_signed p hp
  · rw [hunsigned, SignedDataObjects.mem_unsignedProperties] at hp
    rcases hp with ⟨o, ho, hp⟩ | hp
    · exact (hobject ho).kind_unsigned p hp
    · exact hforAll.kind_unsigned p hp

/-- **Only a time-stamp stands where its kind does not belong.**  After any run, in the bags of the
data objects and in the containers that are assembled from them, a property stands in the container
of its kind, signed or not and of the signature or not as its kind is, exactly if it is no
time-stamp on the signature that was declared on data objects.  The form of the signature depends
on the kinds of the properties in their place and of such time-stamps, and when there are none, on
the properties in their place only. -/
theorem placement_of_run {actions : List Action} :
    let s := ({} : Declarations).run actions
    (∀ d ∈ s.objects,
      (∀ p ∈ d.signed.entries, p.kind.group = .signedDataObject ↔ p.IsWellMade) ∧
        ∀ p ∈ d.unsigned.entries, p.kind.group = .unsignedDataObject) ∧
      ∀ objects ∈ s.collections, ∀ next requests id certificate policy q,
        assemble (Collector.collectAll {} next requests) objects s.table id certificate policy =
          .ok q →
        (∀ p ∈ q.properties,
          (p.kind.group = p.container ↔ p.IsWellMade) ∧
            (p.kind.isSigned = p.container.isSigned ↔ p.IsWellMade) ∧
              (p.kind.isSignatureLevel = p.container.isSignatureLevel ↔ p.IsWellMade)) ∧
          (∀ k, k ∈ q.kinds ↔ k ∈ q.placedKinds ∨
            ∃ d stamp, .signedDataObject d ∈ q.properties ∧ d.timeStamp? = some stamp ∧
              stamp.kind.kind = k ∧ k.group = .unsignedSignature) ∧
          ((∀ p ∈ q.properties, p.IsWellMade) →
            q.form? = SignatureForm.detect? q.placedKinds) := by
  intro s
  have hs : s.IsConsistent := (Declarations.isConsistent_start 1).run actions
  refine ⟨fun d hd => ⟨fun p hp => ?_, fun p hp => ?_⟩, ?_⟩
  · exact DataObjectProperty.group_kind_eq_signed_iff ((hs.objects d hd).kind_signed p hp)
  · rw [(hs.objects d hd).kind_unsigned p hp]
    rfl
  · intro objects hobjects next requests id certificate policy q hq
    have hdivided : q.IsDivided :=
      isDivided_of_assemble hs hobjects (Collector.isDisciplined_empty.collectAll next requests) hq
    refine ⟨fun p hp => ⟨hdivided.isPlaced_iff hp, ?_⟩, hdivided.mem_kinds_iff, fun hmade => ?_⟩
    · by_cases hplaced : p.IsPlaced
      · have hmade := (hdivided.isPlaced_iff hp).1 hplaced
        exact ⟨iff_of_true (congrArg PropertyGroup.isSigned hplaced) hmade,
          iff_of_true (congrArg PropertyGroup.isSignatureLevel hplaced) hmade⟩
      · have hmade := mt (hdivided.isPlaced_iff hp).2 hplaced
        obtain ⟨d, stamp, rfl, -, hkind, hgroup⟩ := hdivided.exists_stamp hp hplaced
        rw [← hkind] at hgroup
        constructor
        · refine iff_of_false (fun h => ?_) hmade
          rw [PropertyKind.isSigned, hgroup] at h
          cases h
        · refine iff_of_false (fun h => ?_) hmade
          rw [PropertyKind.isSignatureLevel, hgroup] at h
          cases h
    · rw [placedKinds_eq fun p hp => (hdivided.isPlaced_iff hp).2 (hmade p hp)]
      rfl

/-- A time-stamp on the signature among the properties of a data object is not in its place, and a
commitment beside it is. -/
theorem placement_of_stamped :
    let commitment : DataObjectProperty := ⟨⟨0⟩, .commitment { uri := "approval" }⟩
    let stamp : DataObjectProperty := ⟨⟨1⟩, .timeStamp ⟨.signature, ⟨"c14n", []⟩⟩⟩
    let state := ({} : Declarations).run
      [.describeAs "a" "a.txt", .openCollection, .declare ⟨1⟩ commitment, .declare ⟨1⟩ stamp,
        .register ⟨1⟩ 0]
    ∃ objects ∈ state.collections, ∃ q,
      assemble {} objects state.table ⟨2⟩ ⟨[]⟩ none = .ok q ∧
      q.signedDataObjects.entries = [commitment, stamp] ∧
      (commitment.kind.group = .signedDataObject ↔
        (QualifyingProperty.signedDataObject commitment).IsWellMade) ∧
      (stamp.kind.group = .signedDataObject ↔
        (QualifyingProperty.signedDataObject stamp).IsWellMade) := by
  intro commitment stamp state
  obtain ⟨objects, hobjects, hok⟩ :
      ∃ objects ∈ state.collections,
        (assemble {} objects state.table ⟨2⟩ ⟨[]⟩ none).map (fun q => q.signedDataObjects.entries) =
          .ok [commitment, stamp] := by
    decide +kernel
  obtain ⟨q, hq, hentries⟩ := map_eq_ok_iff.1 hok
  have hmem (p : DataObjectProperty) (hp : p ∈ [commitment, stamp]) :
      QualifyingProperty.signedDataObject p ∈ q.properties := by
    rw [mem_properties, mem_contents, hentries]
    exact hp
  obtain ⟨-, hassembled⟩ := @placement_of_run
    [.describeAs "a" "a.txt", .openCollection, .declare ⟨1⟩ commitment, .declare ⟨1⟩ stamp,
      .register ⟨1⟩ 0]
  obtain ⟨hplaced, -, -⟩ := hassembled objects hobjects 0 [] ⟨2⟩ ⟨[]⟩ none q hq
  exact ⟨objects, hobjects, q, hq, hentries, (hplaced _ (hmem commitment (by simp))).1,
    (hplaced _ (hmem stamp (by simp))).1⟩

/-- A time-stamp on the signature is taken in among the signed properties of a data object, and
with it a basic signature counts as a time-stamped one. -/
theorem form_of_misplacedStamp :
    let stamp : DataObjectProperty := ⟨⟨0⟩, .timeStamp ⟨.signature, ⟨"c14n", []⟩⟩⟩
    let actions : List Action :=
      [.describeAs "a" "a.txt", .openCollection, .declare ⟨1⟩ stamp, .register ⟨1⟩ 0]
    let state := ({} : Declarations).run actions
    ({} : Declarations).outcomes actions = List.replicate 4 .accepted ∧
      ∃ objects ∈ state.collections, ∃ o ∈ objects.objects, ∃ q,
        o.signed.entries = [stamp] ∧ stamp.kind.group = .unsignedSignature ∧
        assemble {} objects state.table ⟨1⟩ ⟨[]⟩ none = .ok q ∧
        q.properties =
          [.signedSignature ⟨⟨1⟩, .signingCertificate ⟨[]⟩⟩, .signedDataObject stamp] ∧
        q.form? = some .t ∧ SignatureForm.detect? q.placedKinds = some .bes := by
  intro stamp actions state
  obtain ⟨hall, objects, hobjects, o, ho, hsigned, hok⟩ :
      ({} : Declarations).outcomes actions = List.replicate 4 .accepted ∧
        ∃ objects ∈ state.collections, ∃ o ∈ objects.objects, o.signed.entries = [stamp] ∧
          (assemble {} objects state.table ⟨1⟩ ⟨[]⟩ none).map QualifyingProperties.properties =
            .ok [.signedSignature ⟨⟨1⟩, .signingCertificate ⟨[]⟩⟩, .signedDataObject stamp] := by
    decide +kernel
  obtain ⟨q, hq, hproperties⟩ := map_eq_ok_iff.1 hok
  refine ⟨hall, objects, hobjects, o, ho, q, hsigned, rfl, hq, hproperties, ?_, ?_⟩
  · rw [form?, kinds, hproperties]
    decide +kernel
  · rw [placedKinds, hproperties]
    decide +kernel

end QualifyingProperties

end AdvancedSignature
