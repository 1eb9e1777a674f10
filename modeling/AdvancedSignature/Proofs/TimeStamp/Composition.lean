import AdvancedSignature.Proofs.Outcome
import AdvancedSignature.TimeStamp.Composition

/-!
# The digest input of each kind of time-stamp

A token is computed over bytes that nobody keeps: whoever verifies it takes the same sources in the
same order again.  A source that was skipped or exchanged gives a token that looks as good as any
other until then.

* `XmlEngine.Yields` says what octets a source contributes, and `XmlEngine.Withholds` why it has
  none.  An engine does one or the other (`XmlEngine.octets_eq_ok_iff`,
  `XmlEngine.octets_eq_error_iff`).
* `DigestInput.add_eq_ok_iff` and `DigestInput.add_eq_error_iff`: what one source makes of an input.
* `DigestInput.Composes`: the input is that of the sources in an order, or the cause of the first
  that has no octets.  This is so of adding them one after the other (`DigestInput.composes`).
* `TimeStampSources.digestInput_composes` gives the order for each kind of time-stamp.
-/

namespace AdvancedSignature

variable {Node Reference : Type}

/-! ## Sources -/

namespace XmlEngine

/-- The source contributes these octets under the canonicalization. -/
inductive Yields (engine : XmlEngine Node Reference) (c : Algorithm) :
    DigestSource Node Reference → Bytes → Prop
  /-- A node contributes its own canonical form. -/
  | node {n : Node} {octets : Bytes} (hcanonical : engine.canonicalize [n] c = .ok octets) :
      Yields engine c (.node n) octets
  /-- Octets that a reference gives are taken as they are. -/
  | octets {r : Reference} {octets : Bytes} (hcontent : engine.content r = .ok (.octets octets)) :
      Yields engine c (.reference r) octets
  /-- Of nodes that a reference gives the canonical form is taken. -/
  | nodes {r : Reference} {nodes : List Node} {octets : Bytes}
      (hcontent : engine.content r = .ok (.nodes nodes))
      (hcanonical : engine.canonicalize nodes c = .ok octets) :
      Yields engine c (.reference r) octets

/-- The source has no octets under the canonicalization, for this cause. -/
inductive Withholds (engine : XmlEngine Node Reference) (c : Algorithm) :
    DigestSource Node Reference → String → Prop
  /-- The node has no canonical form. -/
  | node {n : Node} {cause : String} (hcanonical : engine.canonicalize [n] c = .error cause) :
      Withholds engine c (.node n) cause
  /-- The reference cannot be followed. -/
  | content {r : Reference} {cause : String} (hcontent : engine.content r = .error cause) :
      Withholds engine c (.reference r) cause
  /-- The reference leads to nodes that have no canonical form. -/
  | nodes {r : Reference} {nodes : List Node} {cause : String}
      (hcontent : engine.content r = .ok (.nodes nodes))
      (hcanonical : engine.canonicalize nodes c = .error cause) :
      Withholds engine c (.reference r) cause

variable {engine : XmlEngine Node Reference} {c : Algorithm}
  {source : DigestSource Node Reference}

theorem octets_eq_ok_iff {octets : Bytes} :
    engine.octets c source = .ok octets ↔ engine.Yields c source octets := by
  constructor
  · intro h
    cases source with
    | node n => exact .node h
    | reference r =>
      obtain ⟨content, hcontent, h⟩ := bind_eq_ok_iff.1 h
      cases content with
      | octets bytes =>
        cases h
        exact .octets hcontent
      | nodes nodes => exact .nodes hcontent h
  · rintro (hcanonical | hcontent | ⟨hcontent, hcanonical⟩)
    · exact hcanonical
    · exact bind_eq_ok_iff.2 ⟨_, hcontent, rfl⟩
    · exact bind_eq_ok_iff.2 ⟨_, hcontent, hcanonical⟩

theorem octets_eq_error_iff {cause : String} :
    engine.octets c source = .error cause ↔ engine.Withholds c source cause := by
  constructor
  · intro h
    cases source with
    | node n => exact .node h
    | reference r =>
      rcases bind_eq_error_iff.1 h with hcontent | ⟨content, hcontent, h⟩
      · exact .content hcontent
      · cases content with
        | octets bytes => cases h
        | nodes nodes => exact .nodes hcontent h
  · rintro (hcanonical | hcontent | ⟨hcontent, hcanonical⟩)
    · exact hcanonical
    · exact bind_eq_error_iff.2 (.inl hcontent)
    · exact bind_eq_error_iff.2 (.inr ⟨_, hcontent, hcanonical⟩)

end XmlEngine

namespace DigestInput

variable {engine : XmlEngine Node Reference} {c : Algorithm}

/-! ## One source after the other -/

theorem add_eq_ok_iff {input result : DigestInput} {source : DigestSource Node Reference} :
    add engine input source = .ok result ↔
      ∃ octets, engine.Yields input.canonicalization source octets ∧
        result = ⟨input.canonicalization, input.bytes ++ octets⟩ := by
  simp only [add, ← XmlEngine.octets_eq_ok_iff]
  cases engine.octets input.canonicalization source with
  | ok octets => simp [eq_comm]
  | error cause => simp

theorem add_eq_error_iff {input : DigestInput} {source : DigestSource Node Reference} {e : Error} :
    add engine input source = .error e ↔
      ∃ cause, engine.Withholds input.canonicalization source cause ∧
        e = .digestInputConstructionFailed cause := by
  simp only [add, ← XmlEngine.octets_eq_error_iff]
  cases engine.octets input.canonicalization source with
  | ok octets => simp
  | error cause => simp [eq_comm]

theorem foldlM_add_eq_ok_iff {input result : DigestInput}
    {sources : List (DigestSource Node Reference)} :
    sources.foldlM (add engine) input = .ok result ↔
      ∃ parts, List.Forall₂ (engine.Yields input.canonicalization) sources parts ∧
        result = ⟨input.canonicalization, input.bytes ++ parts.flatten⟩ := by
  -- What has been added already goes before the parts that are still to come.
  induction sources generalizing input with
  | nil => simp [pure, Except.pure, eq_comm]
  | cons source rest ih =>
    rw [List.foldlM_cons, bind_eq_ok_iff]
    constructor
    · rintro ⟨next, hadd, h⟩
      obtain ⟨octets, hoctets, rfl⟩ := add_eq_ok_iff.1 hadd
      obtain ⟨parts, hparts, rfl⟩ := ih.1 h
      exact ⟨octets :: parts, .cons hoctets hparts, by simp⟩
    · rintro ⟨_, _ | ⟨hoctets, hparts⟩, rfl⟩
      exact ⟨_, add_eq_ok_iff.2 ⟨_, hoctets, rfl⟩, ih.2 ⟨_, hparts, by simp⟩⟩

/-- The first of the sources that has no octets has none for this cause. -/
def WithholdsFirst (engine : XmlEngine Node Reference) (c : Algorithm)
    (sources : List (DigestSource Node Reference)) (cause : String) : Prop :=
  ∃ before source after, sources = before ++ source :: after ∧
    (∀ s ∈ before, ∃ octets, engine.Yields c s octets) ∧ engine.Withholds c source cause

theorem failsFirst_octets_iff {sources : List (DigestSource Node Reference)} {cause : String} :
    FailsFirst (engine.octets c) sources cause ↔ WithholdsFirst engine c sources cause := by
  simp only [FailsFirst, WithholdsFirst, XmlEngine.octets_eq_ok_iff, XmlEngine.octets_eq_error_iff]

theorem foldlM_add_eq_error_iff {input : DigestInput}
    {sources : List (DigestSource Node Reference)} {e : Error} :
    sources.foldlM (add engine) input = .error e ↔
      ∃ cause, WithholdsFirst engine input.canonicalization sources cause ∧
        e = .digestInputConstructionFailed cause := by
  simp only [← failsFirst_octets_iff]
  induction sources generalizing input with
  | nil => simp [not_failsFirst_nil, pure, Except.pure]
  | cons source rest ih =>
    rw [List.foldlM_cons, bind_eq_error_iff, add_eq_error_iff]
    simp only [failsFirst_cons_iff, XmlEngine.octets_eq_ok_iff, XmlEngine.octets_eq_error_iff]
    constructor
    · rintro (⟨cause, hcause, rfl⟩ | ⟨next, hadd, h⟩)
      · exact ⟨cause, .inl hcause, rfl⟩
      · obtain ⟨octets, hoctets, rfl⟩ := add_eq_ok_iff.1 hadd
        obtain ⟨cause, hrest, rfl⟩ := ih.1 h
        exact ⟨cause, .inr ⟨⟨octets, hoctets⟩, hrest⟩, rfl⟩
    · rintro ⟨cause, hcause | ⟨⟨octets, hoctets⟩, hrest⟩, rfl⟩
      · exact .inl ⟨cause, hcause, rfl⟩
      · exact .inr ⟨_, add_eq_ok_iff.2 ⟨octets, hoctets, rfl⟩, ih.2 ⟨cause, hrest, rfl⟩⟩

/-- The digest input is that of the sources in this order under the canonicalization, or there is
none. -/
structure Composes (engine : XmlEngine Node Reference) (c : Algorithm)
    (order : List (DigestSource Node Reference)) (result : Except Error DigestInput) : Prop where
  /-- There is an input exactly if all of the sources have octets. -/
  exists_eq_ok_iff : (∃ input, result = .ok input) ↔
    ∀ source ∈ order, ∃ octets, engine.Yields c source octets
  /-- The input consists of what the sources contribute, with nothing in between. -/
  eq_ok_iff : ∀ input, result = .ok input ↔
    ∃ parts, List.Forall₂ (engine.Yields c) order parts ∧ input = ⟨c, parts.flatten⟩
  /-- The error gives the cause for which the first source without octets has none. -/
  eq_error_iff : ∀ e, result = .error e ↔
    ∃ cause, WithholdsFirst engine c order cause ∧ e = .digestInputConstructionFailed cause

theorem composes (engine : XmlEngine Node Reference) (c : Algorithm)
    (order : List (DigestSource Node Reference)) :
    Composes engine c order (compose engine c order) := by
  have hok (input : DigestInput) : compose engine c order = .ok input ↔
      ∃ parts, List.Forall₂ (engine.Yields c) order parts ∧ input = ⟨c, parts.flatten⟩ :=
    foldlM_add_eq_ok_iff
  refine ⟨?_, hok, fun e => foldlM_add_eq_error_iff⟩
  rw [← exists_forall₂_iff]
  constructor
  · rintro ⟨input, h⟩
    obtain ⟨parts, hparts, -⟩ := (hok input).1 h
    exact ⟨parts, hparts⟩
  · rintro ⟨parts, hparts⟩
    exact ⟨_, (hok _).2 ⟨parts, hparts, rfl⟩⟩

end DigestInput

/-! ## Kinds of time-stamps -/

namespace TimeStampSources

open DigestInput
open DigestSource (node reference)

/-- **The digest input of a time-stamp is the concatenation of its sources, or there is none.**
Whatever the engine and the canonicalization: for each kind of time-stamp the sources are taken in
this order, those that may be absent where they are present.  All of them have to yield their
octets, and the first that does not gives the cause of the error. -/
theorem digestInput_composes (engine : XmlEngine Node Reference) (c : Algorithm) :
    (∀ value : Node, Composes engine c [node value] ((signature value).digestInput engine c)) ∧
    (∀ references : List Reference, Composes engine c (references.map reference)
      ((allDataObjects references).digestInput engine c)) ∧
    (∀ included : List Reference, Composes engine c (included.map reference)
      ((individualDataObjects included).digestInput engine c)) ∧
    (∀ s : SigAndRefsSources Node, Composes engine c
      ([node s.signatureValue] ++ s.signatureTimeStamps.map node ++
        [node s.completeCertificateRefs] ++ [node s.completeRevocationRefs] ++
        s.attributeCertificateRefs.toList.map node ++ s.attributeRevocationRefs.toList.map node)
      ((sigAndRefs s).digestInput engine c)) ∧
    (∀ s : ArchiveSources Node Reference, Composes engine c
      (s.references.map reference ++ [node s.signedInfo] ++ [node s.signatureValue] ++
        s.keyInfo.toList.map node ++ s.unsignedProperties.map node ++ s.objects.map node)
      ((archive s).digestInput engine c)) := by
  have hcomposes (sources : TimeStampSources Node Reference) :
      Composes engine c sources.inOrder (sources.digestInput engine c) :=
    composes engine c sources.inOrder
  refine ⟨fun value => hcomposes (signature value),
    fun references => hcomposes (allDataObjects references),
    fun included => hcomposes (individualDataObjects included), fun s => ?_, fun s => ?_⟩
  · have horder : (sigAndRefs s : TimeStampSources Node Reference).inOrder =
        [node s.signatureValue] ++ s.signatureTimeStamps.map node ++
          [node s.completeCertificateRefs] ++ [node s.completeRevocationRefs] ++
          s.attributeCertificateRefs.toList.map node ++
          s.attributeRevocationRefs.toList.map node := by
      simp [inOrder]
    rw [← horder]
    exact hcomposes (sigAndRefs s)
  · have horder : (archive s).inOrder =
        s.references.map reference ++ [node s.signedInfo] ++ [node s.signatureValue] ++
          s.keyInfo.toList.map node ++ s.unsignedProperties.map node ++
          s.objects.map node := by
      simp [inOrder]
    rw [← horder]
    exact hcomposes (archive s)

/-- A reference that leads to nodes comes to nothing where these have no canonical form, and what
would come after it is not asked for. -/
example :
    let engine : XmlEngine String (ReferenceContent String) :=
      { content := .ok, canonicalize := fun nodes _ => .error (String.join nodes) }
    (archive ⟨[.octets [1], .nodes ["a", "b"]], "info", "value", none, [], ["c"]⟩).digestInput
      engine ⟨Algorithm.exclusiveC14n, []⟩ = .error (.digestInputConstructionFailed "ab") :=
  rfl

end TimeStampSources

end AdvancedSignature
