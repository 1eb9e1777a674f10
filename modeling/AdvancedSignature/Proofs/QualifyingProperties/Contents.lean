import AdvancedSignature.Proofs.QualifyingProperties.Assembly

/-!
# What the containers hold

The four containers side by side, from their first properties to those of later forms.

* `QualifyingProperties.contents` lists a container, `Admits` says when a property is taken in, and
  `IsConsistent` what holds of the containers throughout.
* `QualifyingProperties.IsConsistent.add_cases` says what one addition does: it is refused, or it
  extends one container at its end.
* `QualifyingProperties.addEach_isOrderly`: whatever was assembled and is added later, the
  containers keep the discipline and answer for their kinds.
-/

namespace AdvancedSignature

/-- A signing certificate is a signed property of the signature. -/
theorem QualifyingProperty.eq_of_kind_signingCertificate {p : QualifyingProperty}
    (h : p.kind = .signingCertificate) :
    ∃ id certificate, p = .signedSignature ⟨id, .signingCertificate certificate⟩ := by
  cases p with
  | signedSignature p =>
    obtain ⟨id, content⟩ := p
    cases content <;> cases h
    exact ⟨id, _, rfl⟩
  | unsignedSignature p =>
    obtain ⟨id, content⟩ := p
    cases content <;> cases h
  | signedDataObject p | unsignedDataObject p =>
    obtain ⟨id, content⟩ := p
    cases content with
    | format | commitment | commitmentForAll => cases h
    | timeStamp d =>
      obtain ⟨kind, canonicalization⟩ := d
      cases kind <;> cases h
    | other o =>
      simp only [QualifyingProperty.kind, DataObjectProperty.kind, DataObjectContent.kind] at h
      split at h <;> cases h

/-- The collected properties with the containers that they go to. -/
def Collector.contents (c : Collector) : List QualifyingProperty :=
  c.signed.entries.map .signedSignature ++ c.unsigned.entries.map .unsignedSignature

namespace QualifyingProperties

variable {q q' : QualifyingProperties} {p : QualifyingProperty} {g : PropertyGroup}

/-! ## Contents -/

/-- The properties of a container in order. -/
def contents (q : QualifyingProperties) : PropertyGroup → List QualifyingProperty
  | .signedSignature => q.signedSignature.entries.map .signedSignature
  | .unsignedSignature => q.unsignedSignature.entries.map .unsignedSignature
  | .signedDataObject => q.signedDataObjects.entries.map .signedDataObject
  | .unsignedDataObject => q.unsignedDataObjects.entries.map .unsignedDataObject

theorem container_of_mem_contents (h : p ∈ q.contents g) : p.container = g := by
  cases g <;> obtain ⟨p, -, rfl⟩ := List.mem_map.1 h <;> rfl

theorem mem_contents :
    p ∈ q.contents p.container ↔
      match p with
      | .signedSignature p => p ∈ q.signedSignature.entries
      | .signedDataObject p => p ∈ q.signedDataObjects.entries
      | .unsignedSignature p => p ∈ q.unsignedSignature.entries
      | .unsignedDataObject p => p ∈ q.unsignedDataObjects.entries := by
  cases p <;> simp [contents, QualifyingProperty.container]

/-- Document order goes through the containers. -/
theorem properties_eq (q : QualifyingProperties) :
    q.properties =
      [.signedSignature, .signedDataObject, .unsignedSignature, .unsignedDataObject].flatMap
        q.contents := by
  simp [properties, contents]

theorem mem_properties : p ∈ q.properties ↔ p ∈ q.contents p.container := by
  rw [properties_eq, List.mem_flatMap]
  constructor
  · rintro ⟨g, -, hp⟩
    exact container_of_mem_contents hp ▸ hp
  · exact fun hp => ⟨p.container, by cases p <;> simp [QualifyingProperty.container], hp⟩

/-! ## Consistency -/

/-- The containers of the signature are disciplined, and no data-object property is listed
twice. -/
structure IsConsistent (q : QualifyingProperties) : Prop extends IsDisciplined q where
  signedDataObjects : q.signedDataObjects.entries.Nodup
  unsignedDataObjects : q.unsignedDataObjects.entries.Nodup

theorem isConsistent_empty : IsConsistent {} := ⟨isDisciplined_empty, .nil, .nil⟩

theorem isConsistent_of_assemble {collector : Collector} (hcollector : collector.IsDisciplined)
    {objects : SignedDataObjects} {table : TargetTable} {id : InstanceId}
    {certificate : SigningCertificate} {policy : Option SignaturePolicy}
    (h : assemble collector objects table id certificate policy = .ok q) : q.IsConsistent := by
  obtain ⟨hdisciplined, -, hsigned, hunsigned⟩ := of_assemble hcollector h
  refine ⟨hdisciplined, ?_, ?_⟩
  · rw [hsigned]
    exact InstanceList.nodup_ofList _
  · rw [hunsigned]
    exact InstanceList.nodup_ofList _

namespace IsConsistent

theorem nodup_contents (hq : q.IsConsistent) (g : PropertyGroup) : (q.contents g).Nodup := by
  cases g with
  | signedSignature =>
    exact hq.signedSignature.nodup.map fun _ _ => QualifyingProperty.signedSignature.inj
  | unsignedSignature =>
    exact hq.unsignedSignature.nodup.map fun _ _ => QualifyingProperty.unsignedSignature.inj
  | signedDataObject =>
    exact hq.signedDataObjects.map fun _ _ => QualifyingProperty.signedDataObject.inj
  | unsignedDataObject =>
    exact hq.unsignedDataObjects.map fun _ _ => QualifyingProperty.unsignedDataObject.inj

theorem nodup_properties (hq : q.IsConsistent) : q.properties.Nodup := by
  rw [properties_eq, List.nodup_flatMap]
  refine ⟨fun g _ => hq.nodup_contents g, ?_⟩
  -- the tags tell the containers apart
  refine List.Pairwise.imp (R := (· ≠ ·)) (fun hne p hp hp' => hne ?_) (by decide)
  exact (container_of_mem_contents hp).symm.trans (container_of_mem_contents hp')

/-- Of a kind that is put there is one property in a container of the signature. -/
theorem eq_of_kind (hq : q.IsConsistent) {p p' : QualifyingProperty} (hp : p ∈ q.properties)
    (hp' : p' ∈ q.properties) (hcontainer : p.container = p'.container)
    (hlevel : p.container.isSignatureLevel = true) (hkind : p.kind = p'.kind)
    (hput : p.kind.insertionPolicy = .put) : p = p' := by
  rw [mem_properties, mem_contents] at hp hp'
  cases p with
  | signedSignature p =>
    cases p' <;> try cases hcontainer
    exact congrArg _ (hq.signedSignature.eq_of_kind hp hp' hkind hput)
  | unsignedSignature p =>
    cases p' <;> try cases hcontainer
    exact congrArg _ (hq.unsignedSignature.eq_of_kind hp hp' hkind hput)
  | signedDataObject | unsignedDataObject => cases hlevel

theorem length_ofKind_le (hq : q.IsConsistent) (hg : g.isSignatureLevel = true)
    {k : PropertyKind} (hk : k.insertionPolicy = .put) :
    ((q.contents g).filter fun p => p.kind == k).length ≤ 1 := by
  cases g with
  | signedSignature =>
    rw [contents, List.filter_map, List.length_map]
    exact hq.signedSignature.length_ofKind_le hk
  | unsignedSignature =>
    rw [contents, List.filter_map, List.length_map]
    exact hq.unsignedSignature.length_ofKind_le hk
  | signedDataObject | unsignedDataObject => cases hg

/-- The containers that count their kinds and those that are searched agree with the list of all
kinds. -/
theorem containsKind_iff (hq : q.IsConsistent) (k : PropertyKind) :
    q.containsKind k = true ↔ k ∈ q.kinds := by
  have hsigned := hq.signedSignature.containsKind_iff k
  have hunsigned := hq.unsignedSignature.containsKind_iff k
  have hlist (l : InstanceList DataObjectProperty) :
      l.containsKind k = true ↔ k ∈ l.entries.map HasKind.kind := by
    simp [InstanceList.containsKind]
  simp only [containsKind, Bool.or_eq_true, hsigned, hunsigned, hlist, kinds, properties,
    List.map_append, List.map_map, List.mem_append]
  rfl

end IsConsistent

theorem isSome_signingCertificate?_iff :
    q.signingCertificate?.isSome = true ↔ .signingCertificate ∈ q.kinds := by
  unfold signingCertificate? kinds
  rw [List.isSome_findSome?, List.any_eq_true, List.mem_map]
  constructor
  · rintro ⟨p, hp, hcertificate⟩
    refine ⟨.signedSignature p, mem_properties.2 (mem_contents.2 hp), ?_⟩
    obtain ⟨id, content⟩ := p
    cases content <;> first | rfl | cases hcertificate
  · rintro ⟨p, hp, hkind⟩
    obtain ⟨id, certificate, rfl⟩ := QualifyingProperty.eq_of_kind_signingCertificate hkind
    exact ⟨_, mem_contents.1 (mem_properties.1 hp), rfl⟩

/-! ## Adding -/

/-- The container of the property can take it in: it is not there yet, and if it wants to be the
only one of its kind in a container of the signature then the kind does not occur. -/
def Admits (q : QualifyingProperties) (p : QualifyingProperty) : Prop :=
  p ∉ q.contents p.container ∧
    (p.container.isSignatureLevel = true → p.kind.insertionPolicy = .put →
      p.kind ∉ (q.contents p.container).map QualifyingProperty.kind)

/-- A container of the signature that lists a bag, under a tag, admits what the bag does. -/
theorem admits_tag_iff {α : Type} [HasKind α] {b : Bag α} {tag : α → QualifyingProperty}
    (htag : Function.Injective tag) (hkind : ∀ p, (tag p).kind = HasKind.kind p) {p : α}
    (hlevel : (tag p).container.isSignatureLevel = true)
    (hcontents : q.contents (tag p).container = b.entries.map tag) :
    q.Admits (tag p) ↔ b.Admits p := by
  have hkinds : (b.entries.map tag).map QualifyingProperty.kind = b.entries.map HasKind.kind := by
    rw [List.map_map]
    exact List.map_congr_left fun p _ => hkind p
  rw [Admits, hcontents, List.mem_map_of_injective htag, hkinds, hkind, Bag.Admits]
  exact and_congr_right' (imp_iff_right hlevel)

/-- About data objects anything is taken in that is not there yet. -/
theorem admits_of_dataObject (hp : p.container.isSignatureLevel = false) :
    q.Admits p ↔ p ∉ q.contents p.container := by
  refine and_iff_left fun hlevel => ?_
  rw [hp] at hlevel
  cases hlevel

/-- The second properties are the first with one more at the end of its container. -/
def ExtendsBy (q q' : QualifyingProperties) (p : QualifyingProperty) : Prop :=
  ∀ g, q'.contents g = q.contents g ++ if p.container = g then [p] else []

/-- One container, on its own, refuses the property or takes it in.  Then so do the containers side
by side, which are `holding x` when that container is `x`. -/
theorem add_cases_of_container {β : Type} {added : Except Error β} {x : β} {admitted : Prop}
    (hcases : (¬ admitted ∧ ∃ e, added = .error e) ∨ (admitted ∧ added = .ok x))
    (hadmits : q.Admits p ↔ admitted) {holding : β → QualifyingProperties}
    (hadd : q.add p = added.map holding)
    (hholding : admitted → (holding x).IsConsistent ∧ q.ExtendsBy (holding x) p) :
    (¬ q.Admits p ∧ ∃ e, q.add p = .error e) ∨
      (q.Admits p ∧ ∃ q', q.add p = .ok q' ∧ q'.IsConsistent ∧ q.ExtendsBy q' p) := by
  rw [hadmits, hadd]
  rcases hcases with ⟨hnot, e, rfl⟩ | ⟨hadmitted, rfl⟩
  · exact Or.inl ⟨hnot, e, rfl⟩
  · exact Or.inr ⟨hadmitted, _, rfl, hholding hadmitted⟩

namespace IsConsistent

/-- What is not admitted is refused, and what is admitted comes last in its container. -/
theorem add_cases (hq : q.IsConsistent) (p : QualifyingProperty) :
    (¬ q.Admits p ∧ ∃ e, q.add p = .error e) ∨
      (q.Admits p ∧ ∃ q', q.add p = .ok q' ∧ q'.IsConsistent ∧ q.ExtendsBy q' p) := by
  cases p with
  | signedSignature p =>
    have hadmits : q.Admits (.signedSignature p) ↔ q.signedSignature.Admits p :=
      admits_tag_iff (fun _ _ => QualifyingProperty.signedSignature.inj) (fun _ => rfl) rfl rfl
    refine add_cases_of_container (hq.signedSignature.putOrAdd_cases p) hadmits rfl fun h =>
      ⟨{ hq with signedSignature := hq.signedSignature.append h }, fun g => ?_⟩
    cases g <;> simp [contents, QualifyingProperty.container, Bag.entries_append]
  | unsignedSignature p =>
    have hadmits : q.Admits (.unsignedSignature p) ↔ q.unsignedSignature.Admits p :=
      admits_tag_iff (fun _ _ => QualifyingProperty.unsignedSignature.inj) (fun _ => rfl) rfl rfl
    refine add_cases_of_container (hq.unsignedSignature.putOrAdd_cases p) hadmits rfl fun h =>
      ⟨{ hq with unsignedSignature := hq.unsignedSignature.append h }, fun g => ?_⟩
    cases g <;> simp [contents, QualifyingProperty.container, Bag.entries_append]
  | signedDataObject p =>
    have hadmits : q.Admits (.signedDataObject p) ↔ p ∉ q.signedDataObjects.entries :=
      (admits_of_dataObject rfl).trans (not_congr mem_contents)
    have hcases := (q.signedDataObjects.push_cases p).imp_left (And.imp_left not_not_intro)
    refine add_cases_of_container hcases hadmits rfl fun h =>
      ⟨{ hq with signedDataObjects := ?_ }, fun g => ?_⟩
    · exact hq.signedDataObjects.append (List.nodup_singleton p) (by simpa using h)
    · cases g <;> simp [contents, QualifyingProperty.container]
  | unsignedDataObject p =>
    have hadmits : q.Admits (.unsignedDataObject p) ↔ p ∉ q.unsignedDataObjects.entries :=
      (admits_of_dataObject rfl).trans (not_congr mem_contents)
    have hcases := (q.unsignedDataObjects.push_cases p).imp_left (And.imp_left not_not_intro)
    refine add_cases_of_container hcases hadmits rfl fun h =>
      ⟨{ hq with unsignedDataObjects := ?_ }, fun g => ?_⟩
    · exact hq.unsignedDataObjects.append (List.nodup_singleton p) (by simpa using h)
    · cases g <;> simp [contents, QualifyingProperty.container]

end IsConsistent

theorem addEach_of_ok (h : q.add p = .ok q') (ps : List QualifyingProperty) :
    q.addEach (p :: ps) = q'.addEach ps := by
  rw [addEach, List.foldl_cons, h]
  rfl

theorem addEach_of_error {e : Error} (h : q.add p = .error e) (ps : List QualifyingProperty) :
    q.addEach (p :: ps) = q.addEach ps := by
  rw [addEach, List.foldl_cons, h]
  rfl

namespace IsConsistent

/-- Additions, refused or not, keep the containers consistent and what they hold in front. -/
theorem addEach (hq : q.IsConsistent) (ps : List QualifyingProperty) :
    (q.addEach ps).IsConsistent ∧ ∀ g, q.contents g <+: (q.addEach ps).contents g := by
  induction ps generalizing q with
  | nil => exact ⟨hq, fun g => List.prefix_refl _⟩
  | cons p rest ih =>
    rcases hq.add_cases p with ⟨-, e, he⟩ | ⟨-, q', hadd, hq', hextends⟩
    · rw [addEach_of_error he]
      exact ih hq
    · rw [addEach_of_ok hadd]
      refine ⟨(ih hq').1, fun g => List.IsPrefix.trans ?_ ((ih hq').2 g)⟩
      rw [hextends g]
      exact List.prefix_append _ _

end IsConsistent

/-! ## From the beginning to later forms -/

/-- What later forms start from, with the properties that were collected for it: nothing, or what
was assembled for data objects. -/
inductive Origin : List QualifyingProperty → QualifyingProperties → Prop
  | empty : Origin [] {}
  | assembled {next : Nat} {requests : List CollectorRequest} {objects : SignedDataObjects}
      {table : TargetTable} {id : InstanceId} {certificate : SigningCertificate}
      {policy : Option SignaturePolicy} {q : QualifyingProperties}
      (h : assemble (Collector.collectAll {} next requests) objects table id certificate policy =
        .ok q) :
      Origin (Collector.collectAll {} next requests).contents q

theorem Origin.isConsistent {collected : List QualifyingProperty} (h : Origin collected q) :
    q.IsConsistent := by
  cases h with
  | empty => exact isConsistent_empty
  | assembled h =>
    exact isConsistent_of_assemble (Collector.isDisciplined_empty.collectAll _ _) h

/-- What was collected is in the container it was collected for. -/
theorem Origin.mem_contents {collected : List QualifyingProperty} (h : Origin collected q)
    (hp : p ∈ collected) : p ∈ q.contents p.container := by
  cases h with
  | empty => cases hp
  | assembled h =>
    rename_i next requests objects table id certificate policy
    obtain ⟨bag, hbag, heq⟩ := assemble_eq id certificate policy next requests objects table
    rw [heq] at h
    obtain ⟨_, -, rfl⟩ := map_eq_ok_iff.1 h
    rcases List.mem_append.1 hp with hp | hp
    · obtain ⟨p, hcollected, rfl⟩ := List.mem_map.1 hp
      refine QualifyingProperties.mem_contents.2 ?_
      change p ∈ bag.entries
      rw [hbag]
      exact List.mem_append_right _ hcollected
    · obtain ⟨p, hcollected, rfl⟩ := List.mem_map.1 hp
      exact QualifyingProperties.mem_contents.2 hcollected

/-- The put and add discipline holds, and asking for a kind agrees with listing the kinds. -/
structure IsOrderly (q : QualifyingProperties) : Prop where
  /-- In a container of the signature there is one property of a kind that is put. -/
  single : ∀ g, g.isSignatureLevel = true → ∀ k, k.insertionPolicy = .put →
    ((q.contents g).filter fun p => p.kind == k).length ≤ 1
  distinct : ∀ g, (q.contents g).Nodup
  containsKind_iff : ∀ k, q.containsKind k = true ↔ k ∈ q.kinds
  signingCertificate_iff : q.signingCertificate?.isSome = true ↔ .signingCertificate ∈ q.kinds

theorem IsConsistent.isOrderly (hq : q.IsConsistent) : q.IsOrderly where
  single _ hg _ hk := hq.length_ofKind_le hg hk
  distinct := hq.nodup_contents
  containsKind_iff := hq.containsKind_iff
  signingCertificate_iff := isSome_signingCertificate?_iff

/-- **The discipline holds from the beginning to later forms.**  Whatever was collected, assembled
and added, and whether or not it was refused, the properties are orderly, and what was collected is
not taken in again.  One more property either is refused, and everything stays as it is, or comes
last in its own container; that depends on whether the container admits it. -/
theorem addEach_isOrderly {collected : List QualifyingProperty} {q₀ : QualifyingProperties}
    (h : Origin collected q₀) (ps : List QualifyingProperty) :
    let q := q₀.addEach ps
    q.IsOrderly ∧
      (∀ p ∈ collected, ∃ e, q.add p = .error e) ∧
      ∀ p, (¬ q.Admits p ∧ (∃ e, q.add p = .error e) ∧ q.addEach [p] = q) ∨
        (q.Admits p ∧ q.add p = .ok (q.addEach [p]) ∧ q.ExtendsBy (q.addEach [p]) p) := by
  intro q
  obtain ⟨hq, hkeeps⟩ : q.IsConsistent ∧ _ := h.isConsistent.addEach ps
  refine ⟨hq.isOrderly, fun p hp => ?_, fun p => ?_⟩
  · rcases hq.add_cases p with ⟨-, hrefused⟩ | ⟨hadmits, -⟩
    · exact hrefused
    · exact absurd ((hkeeps _).subset (h.mem_contents hp)) hadmits.1
  · rcases hq.add_cases p with ⟨hnot, e, he⟩ | ⟨hadmits, q', hadd, -, hextends⟩
    · exact Or.inl ⟨hnot, ⟨e, he⟩, addEach_of_error he []⟩
    · have heach : q.addEach [p] = q' := addEach_of_ok hadd []
      rw [heach]
      exact Or.inr ⟨hadmits, hadd, hextends⟩

/-- A collected role and counter-signature, a commitment on the data object, and then two lists of
complete references, of which the second is refused: the counter-signature is not taken in again,
and a time-stamp comes after the references. -/
theorem addEach_of_countersigned :
    let commitment : DataObjectProperty := ⟨⟨0⟩, .commitment { uri := "approval" }⟩
    let state := ({} : Declarations).run
      [.describeAs "a" "a.txt", .openCollection, .declare ⟨1⟩ commitment, .register ⟨1⟩ 0]
    let counterSignature : QualifyingProperty := .unsignedSignature ⟨⟨2⟩, .counterSignature "<a/>"⟩
    let references : QualifyingProperty := .unsignedSignature ⟨⟨4⟩, .completeCertificateRefs []⟩
    let stamp : QualifyingProperty := .unsignedSignature ⟨⟨6⟩, .signatureTimeStamp ⟨"c14n", []⟩⟩
    let additions := [references, .unsignedSignature ⟨⟨5⟩, .completeCertificateRefs []⟩]
    ∃ objects ∈ state.collections, ∃ q₀,
      assemble (Collector.collectAll {} 1 [.signerRole {}, .counterSignature "<a/>"]) objects
        state.table ⟨3⟩ ⟨[]⟩ none = .ok q₀ ∧
      (q₀.addEach additions).contents .unsignedSignature = [counterSignature, references] ∧
      (q₀.addEach additions).IsOrderly ∧
      (∃ e, (q₀.addEach additions).add counterSignature = .error e) ∧
      ((q₀.addEach additions).addEach [stamp]).contents .unsignedSignature =
        [counterSignature, references, stamp] := by
  intro commitment state counterSignature references stamp additions
  obtain ⟨objects, hobjects, hok⟩ :
      ∃ objects ∈ state.collections,
        ((assemble (Collector.collectAll {} 1 [.signerRole {}, .counterSignature "<a/>"]) objects
          state.table ⟨3⟩ ⟨[]⟩ none).map fun q =>
            (q.addEach additions).contents .unsignedSignature) =
          .ok [counterSignature, references] := by
    decide +kernel
  obtain ⟨q₀, hq₀, hcontents⟩ := map_eq_ok_iff.1 hok
  obtain ⟨horderly, hcollected, hadd⟩ := addEach_isOrderly (.assembled hq₀) additions
  refine ⟨objects, hobjects, q₀, hq₀, hcontents, horderly, ?_, ?_⟩
  · exact hcollected counterSignature (by decide +kernel)
  · rcases hadd stamp with ⟨hnot, -⟩ | ⟨-, -, hextends⟩
    · refine absurd ⟨?_, nofun⟩ hnot
      change stamp ∉ (q₀.addEach additions).contents .unsignedSignature
      rw [hcontents]
      decide +kernel
    · rw [hextends, hcontents]
      rfl

end QualifyingProperties

end AdvancedSignature
