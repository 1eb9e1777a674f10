import AdvancedSignature.Proofs.Layout.Violation
import AdvancedSignature.Proofs.Scan.Signature

/-!
# Properties for all data objects

Some properties are about all data objects of a signature and point at none.  A document can contain
such a property that names data objects nevertheless.  The scan passes over what it names, so the
structure rules never see it.

* `Scan.PointsForAll` says which property elements do so.
* `PropertyLayout.withoutForAll` leaves out the properties for all data objects, and
  `PropertyLayout.checkFrom_withoutForAll` says that a check does not miss them where they have no
  targets.
* `Xml.Document.scan_passesOver`: no scanned layout has targets on a property for all data objects,
  and the check of a scanned signature comes out as if there were no such property.
-/

namespace AdvancedSignature

open Xml (Node Path ListsInOrder IsFirst Document)
open Xml.Node (ChildAt)

/-! ## Layouts -/

/-- Of all kinds only two are for all data objects. -/
theorem PropertyKind.multiplicity_eq_all_iff {k : PropertyKind} :
    k.multiplicity = .all ↔ k = .allDataObjectsCommitmentType ∨ k = .allDataObjectsTimeStamp := by
  cases k <;> decide

namespace LayoutEntry

/-- The entry is about all data objects and stands where such entries belong. -/
def isForAll (e : LayoutEntry) : Bool :=
  e.container == .signedDataObject && e.kind.multiplicity == .all

variable {e : LayoutEntry} {references : List String} {before : List LayoutEntry}

theorem isForAll_iff :
    e.isForAll = true ↔ e.container = .signedDataObject ∧ e.kind.multiplicity = .all := by
  rw [isForAll, Bool.and_eq_true, beq_iff_eq, beq_iff_eq]

theorem fault?_of_isForAll (h : e.isForAll = true) (hnone : e.targets = []) :
    e.fault? references before = none := by
  obtain ⟨hcontainer, hall⟩ := isForAll_iff.1 h
  rcases PropertyKind.multiplicity_eq_all_iff.1 hall with hkind | hkind <;>
    simp [fault?, hkind, hcontainer, hnone, PropertyKind.group, PropertyKind.isSignatureLevel,
      PropertyGroup.isSignatureLevel, PropertyKind.multiplicity, PropertyKind.multiplicity?]

/-- Entries for all data objects are of no kind that may stand in a signature once. -/
theorem mem_kinds_filter_iff {k : PropertyKind} (hk : k.multiplicity ≠ .all) :
    k ∈ (before.filter fun f => !f.isForAll).map LayoutEntry.kind ↔
      k ∈ before.map LayoutEntry.kind := by
  simp only [List.mem_map, List.mem_filter, Bool.not_eq_true']
  constructor
  · rintro ⟨f, ⟨hf, -⟩, rfl⟩
    exact ⟨f, hf, rfl⟩
  · rintro ⟨f, hf, rfl⟩
    exact ⟨f, ⟨hf, Bool.eq_false_iff.2 fun h => hk (isForAll_iff.1 h).2⟩, rfl⟩

/-- Entries for all data objects present no data object. -/
theorem exists_formats_filter_iff {target : String} :
    (∃ f ∈ before.filter fun f => !f.isForAll, f.Formats target) ↔
      ∃ f ∈ before, f.Formats target := by
  simp only [List.mem_filter, Bool.not_eq_true']
  constructor
  · rintro ⟨f, ⟨hf, -⟩, hformat⟩
    exact ⟨f, hf, hformat⟩
  · rintro ⟨f, hf, hformat⟩
    refine ⟨f, ⟨hf, Bool.eq_false_iff.2 fun h => ?_⟩, hformat⟩
    have hall := (isForAll_iff.1 h).2
    rw [hformat.1] at hall
    cases hall

/-- Entries for all data objects make no difference to those behind them. -/
theorem fault?_filter :
    e.fault? references (before.filter fun f => !f.isForAll) = e.fault? references before := by
  have htargets : targetFault? references (before.filter fun f => !f.isForAll) e.kind =
      targetFault? references before e.kind := by
    funext earlier target
    simp only [targetFault?, exists_formats_filter_iff]
  unfold fault?
  rw [targetsFault?_eq_firstFault?, targetsFault?_eq_firstFault?, htargets]
  cases hlevel : e.kind.isSignatureLevel with
  | false => rfl
  | true =>
    have hkind : e.kind.multiplicity ≠ .all := by
      intro hall
      rcases PropertyKind.multiplicity_eq_all_iff.1 hall with h | h
      · rw [h] at hlevel
        cases hlevel
      · rw [h] at hlevel
        cases hlevel
    simp only [mem_kinds_filter_iff hkind]

end LayoutEntry

namespace PropertyLayout

variable {l : PropertyLayout}

/-- The layout without the properties for all data objects. -/
def withoutForAll (l : PropertyLayout) : PropertyLayout :=
  { l with entries := l.entries.filter fun e => !e.isForAll }

theorem fault?_withoutForAll (h : ∀ e ∈ l.entries, e.isForAll = true → e.targets = []) :
    l.withoutForAll.fault? = l.fault? := by
  have hfrom : ∀ entries before : List LayoutEntry,
      (∀ e ∈ entries, e.isForAll = true → e.targets = []) →
        faultFrom? l.references (before.filter fun f => !f.isForAll)
            (entries.filter fun f => !f.isForAll) =
          faultFrom? l.references before entries := by
    intro entries
    induction entries with
    | nil => exact fun _ _ => rfl
    | cons e rest ih =>
      intro before hnone
      obtain ⟨he, hrest⟩ := List.forall_mem_cons.1 hnone
      have hlater := ih (before ++ [e]) hrest
      rw [List.filter_append] at hlater
      rw [faultFrom?, ← hlater]
      cases hall : e.isForAll with
      | true =>
        rw [LayoutEntry.fault?_of_isForAll hall (he hall), Option.none_or]
        simp [hall]
      | false =>
        rw [← LayoutEntry.fault?_filter]
        simp [hall, faultFrom?]
  exact hfrom l.entries [] h

/-- A check does not miss properties for all data objects that have no targets. -/
theorem checkFrom_withoutForAll {first : Nat}
    (h : ∀ e ∈ l.entries, e.isForAll = true → e.targets = []) :
    l.withoutForAll.checkFrom first = l.checkFrom first := by
  rw [checkFrom_eq, checkFrom_eq, fault?_withoutForAll h]

/-- Only targets are refused for being those of a property for all data objects. -/
theorem checkFrom_ne_appliesToAllDataObjects {first : Nat}
    (h : ∀ e ∈ l.entries, e.kind.multiplicity = .all → e.targets = []) (k : PropertyKind) :
    l.checkFrom first ≠ .error (.appliesToAllDataObjects k) := by
  rw [ne_eq, checkFrom_eq_error_iff, fault?_eq_some_iff]
  rintro ⟨i, entry, hentry, -, hviolates⟩
  have hmem : entry ∈ l.entries := List.mem_of_getElem? hentry
  cases hviolates with
  | target _ _ hsplit _ htarget =>
    cases htarget with
    | forAll _ hall => simp [h entry hmem hall] at hsplit

end PropertyLayout

/-! ## Scans -/

namespace Scan

variable {container : PropertyGroup} {property : Node} {s : Node}

/-- The property is about all data objects and points at single ones nevertheless. -/
inductive PointsForAll (property : Node) : Prop
  | commitment (hkind : IsOfKind .commitmentType property) (hall : IsForAll property)
      (hpointer : ∃ path c,
        ChildAt (isXadesNamed ElementName.objectReference) property path c) :
      PointsForAll property
  | timeStamp (hkind : IsOfKind .allDataObjectsTimeStamp property)
      (hpointer : ∃ path c,
        ChildAt (isXadesNamed ElementName.includeElement) property path c) :
      PointsForAll property

/-- No targets are read of a property for all data objects. -/
theorem Describes.targets_eq_nil {e : LayoutEntry} (h : Describes container property e)
    (hall : e.kind.multiplicity = .all) : e.targets = [] := by
  cases h with
  | commitment | format | timeStamp => cases hall
  | commitmentForAll | plain | unknown => rfl

/-- A property for all data objects becomes an entry for all data objects. -/
theorem PointsForAll.multiplicity_eq {e : LayoutEntry} (h : PointsForAll property)
    (he : Describes container property e) : e.kind.multiplicity = .all := by
  rw [← entry_eq_ok_iff] at he
  cases h with
  | commitment hkind hall =>
    rw [entry_commitment hkind, commitmentEntry_of_isForAll hall] at he
    obtain rfl := Except.ok.inj he
    rfl
  | timeStamp hkind =>
    rw [entry_of_isOfKind hkind rfl] at he
    obtain rfl := Except.ok.inj he
    rfl

/-- What is read of a signature when properties for all data objects are not looked into. -/
structure PassesOver (s : Node) (r : ScannedSignature) : Prop where
  /-- A property for all data objects has no targets, whatever it points at. -/
  entries : ∀ path qualifying, IsFirst (QualifyingAt s) path qualifying →
    ∃ properties, ListsInOrder (PropertyAt qualifying) properties ∧
      List.Forall₂ (fun x e => Describes x.1 x.2 e ∧
        (PointsForAll x.2 → e.kind.multiplicity = .all ∧ e.targets = []))
        properties r.layout.entries
  /-- No property is refused for pointing at data objects although it is about all. -/
  refusal : ∀ k, r.check ≠ .error (.appliesToAllDataObjects k)
  /-- The check comes out as if there were no properties for all data objects. -/
  check : r.check = r.layout.withoutForAll.check

theorem passesOver_of_signature {r : ScannedSignature} (h : signature s = .ok r) :
    PassesOver s r := by
  have hreads := reads_of_signature h
  have hnone : ∀ e ∈ r.layout.entries, e.kind.multiplicity = .all → e.targets = [] := by
    intro e he
    obtain ⟨container, property, hdescribes⟩ := hreads.exists_describes he
    exact hdescribes.targets_eq_nil
  refine ⟨fun path qualifying hfirst => ?_,
    PropertyLayout.checkFrom_ne_appliesToAllDataObjects hnone,
    (PropertyLayout.checkFrom_withoutForAll fun e he hall => ?_).symm⟩
  · obtain ⟨properties, hlists, hentries⟩ := hreads.entries path qualifying hfirst
    refine ⟨properties, hlists, hentries.imp fun x e he => ⟨he, fun hpoints => ?_⟩⟩
    have hall := hpoints.multiplicity_eq he
    exact ⟨hall, he.targets_eq_nil hall⟩
  · exact hnone e he (LayoutEntry.isForAll_iff.1 hall).2

end Scan

namespace Xml.Document

/-- **What a property for all data objects points at is passed over.**  In every document that is
scanned, each signature is read without it. -/
theorem scan_passesOver {d : Document} {results : List ScannedSignature}
    (h : d.scan = .ok results) :
    ∃ signatures, ListsInOrder d.SignatureAt signatures ∧
      List.Forall₂ Scan.PassesOver signatures results := by
  obtain ⟨map, -, hresults⟩ := bind_eq_ok_iff.1 h
  exact ⟨_, d.listsInOrder_signatureElements,
    (mapM_eq_ok_iff.1 hresults).imp fun s r => Scan.passesOver_of_signature⟩

/-- Properties for all data objects that point at the reference of the signature. -/
def pointedForAll : List Node :=
  [.plain xadesNamespace "CommitmentTypeIndication" []
      [.plain xadesNamespace "AllSignedDataObjects" [] [],
        .plain xadesNamespace "ObjectReference" [] [.text "#R"]],
    .plain xadesNamespace "AllDataObjectsTimeStamp" []
      [.plain xadesNamespace "Include" [("URI", "#R")] []]]

theorem passesOver_signing_pointedForAll :
    ∃ signatures results, (signing pointedForAll).scan = .ok results ∧
      ListsInOrder (signing pointedForAll).SignatureAt signatures ∧
        List.Forall₂ Scan.PassesOver signatures results := by
  have hscan : (signing pointedForAll).scan = .ok [⟨some "S", true, ⟨["R", "R1"],
      [⟨.allDataObjectsCommitmentType, .signedDataObject, []⟩,
        ⟨.allDataObjectsTimeStamp, .signedDataObject, []⟩]⟩⟩] := rfl
  obtain ⟨signatures, hlists, hpasses⟩ := scan_passesOver hscan
  exact ⟨signatures, _, hscan, hlists, hpasses⟩

/-- A signature is accepted with properties for all data objects that point at single ones. -/
theorem accepted_signing_pointedForAll :
    ∃ r path, (signing pointedForAll).scan = .ok [r] ∧ r.check = .ok () ∧
      (signing pointedForAll).SignatureAt [0] (.signing pointedForAll) ∧
        Scan.signature (.signing pointedForAll) = .ok r ∧
          IsFirst (Scan.QualifyingAt (.signing pointedForAll)) path (.qualifying pointedForAll) ∧
            ∀ x ∈ pointedForAll, Scan.PointsForAll x ∧ ∃ place,
              Scan.PropertyAt (.qualifying pointedForAll) place (.signedDataObject, x) := by
  have hqualifying : Scan.qualifyingProperties? (.signing pointedForAll) =
      some (.qualifying pointedForAll) := rfl
  obtain ⟨path, hfirst⟩ := Scan.qualifyingProperties?_eq_some_iff.1 hqualifying
  refine ⟨_, path, rfl, rfl, ⟨rfl, by decide⟩, rfl, hfirst, ?_⟩
  have hplace (i : Nat) (x : Node) (hx : pointedForAll[i]? = some x) (helement : x.isElement) :
      Scan.PropertyAt (.qualifying pointedForAll) [0, 0, i] (.signedDataObject, x) :=
    ⟨[0], [0], [i], _, _, rfl, ⟨0, rfl, rfl, rfl⟩, ⟨0, rfl, rfl, rfl⟩, ⟨i, rfl, hx, helement⟩⟩
  intro x hx
  rcases List.mem_cons.1 hx with rfl | hx
  · exact ⟨.commitment ⟨by decide, rfl⟩ ⟨[0], _, 0, rfl, rfl, by decide⟩
      ⟨[1], _, 1, rfl, rfl, by decide⟩, _, hplace 0 _ rfl rfl⟩
  · obtain rfl := List.mem_singleton.1 hx
    exact ⟨.timeStamp ⟨by decide, rfl⟩ ⟨[0], _, 0, rfl, rfl, by decide⟩, _, hplace 1 _ rfl rfl⟩

end Xml.Document

end AdvancedSignature
