import AdvancedSignature.Proofs.Form.Detection
import AdvancedSignature.Proofs.Layout.Violation
import AdvancedSignature.Proofs.Scan.Signature
import AdvancedSignature.Proofs.Text.Line

/-!
# What a report looks like

Whoever reads a report goes by its lines.  Most of what the lines say is the program's own, but
identifiers and targets are shown as they stand in the document, and a character reference puts a
line feed into an attribute as well as any other character.

* `Report.Lists` says which lines a report is to have.
* `ScannedSignature.shownTexts` are the texts of the document that a report shows.  The lines are
  unbroken exactly if these are (`ScannedSignature.isUnbroken_reportLines_iff`); the only error that
  repeats a text of the document repeats a target.
* `Xml.Document.lines_report`: a reader finds the lines of the report unless a shown text is broken,
  and `Xml.Document.exists_forged_report` is a report in which it is.
-/

namespace AdvancedSignature

open Line (IsUnbroken isUnbroken_append isUnbroken_intercalate isUnbroken_toString isUnbroken_repr)

/-! ## The lines of a report -/

namespace Report

/-- What a report says about the structure. -/
inductive TellsStructure (s : ScannedSignature) : String → Prop
  | ok (hcheck : s.check = .ok ()) : TellsStructure s "  structure: OK"
  | invalid {e : Error} (hcheck : s.check = .error e) :
      TellsStructure s ("  structure: INVALID: " ++ e.message)

/-- What a report says about a form that is required: nothing, unless the signature lacks it. -/
inductive TellsRequirement (s : ScannedSignature) : Option SignatureForm → List String → Prop
  | none : TellsRequirement s none []
  | met {f : SignatureForm} (hcheck : s.checkForm f = .ok ()) : TellsRequirement s (some f) []
  | missed {f : SignatureForm} {e : Error} (hcheck : s.checkForm f = .error e) :
      TellsRequirement s (some f) ["  required form " ++ f.name ++ ": " ++ e.message]

/-- These are the lines of the report on a signature. -/
inductive Lists (s : ScannedSignature) (index : Nat) (required : Option SignatureForm) :
    List String → Prop
  | intro {verdict : String} {requirement : List String} (hverdict : TellsStructure s verdict)
      (hrequirement : TellsRequirement s required requirement) :
      Lists s index required
        (["Signature " ++ toString index ++ " (Id " ++ s.id.getD "-" ++ ")",
            "  references: " ++ ", ".intercalate s.layout.references] ++
          (if s.isQualified then [] else ["  no QualifyingProperties"]) ++
          s.layout.entries.map entryLine ++
          [verdict, "  form: " ++ (s.form?.map SignatureForm.name).getD "none"] ++ requirement)

variable {s : ScannedSignature} {index : Nat} {required : Option SignatureForm}

theorem tellsStructure_iff {line : String} :
    TellsStructure s line ↔ line = structureLine s.check := by
  constructor
  · rintro (hcheck | hcheck)
    · rw [hcheck]
      rfl
    · rw [hcheck]
      rfl
  · rintro rfl
    cases hcheck : s.check with
    | ok u => exact .ok hcheck
    | error e => exact .invalid hcheck

theorem TellsStructure.eq_ok_iff {line : String} (h : TellsStructure s line) :
    line = "  structure: OK" ↔ s.check = .ok () := by
  cases h with
  | ok hcheck => simp [hcheck]
  | @invalid e hcheck =>
    have hne : "  structure: INVALID: " ++ e.message ≠ "  structure: OK" := by
      intro h
      simpa using congrArg String.toList h
    simp [hcheck, hne]

theorem tellsRequirement_iff {lines : List String} :
    TellsRequirement s required lines ↔ lines = (required.map (requiredLine s)).getD [] := by
  constructor
  · rintro (_ | hcheck | hcheck)
    · rfl
    · simp [requiredLine, hcheck]
    · simp [requiredLine, hcheck]
      rfl
  · rintro rfl
    cases required with
    | none => exact .none
    | some f =>
      cases hcheck : s.checkForm f with
      | ok u => simpa [requiredLine, hcheck] using .met hcheck
      | error e => simpa [requiredLine, hcheck] using .missed hcheck

/-- A report has one list of lines. -/
theorem lists_iff {lines : List String} :
    Lists s index required lines ↔ lines = s.reportLines index required := by
  constructor
  · rintro ⟨hverdict, hrequirement⟩
    rw [tellsStructure_iff.1 hverdict, tellsRequirement_iff.1 hrequirement]
    rfl
  · rintro rfl
    exact .intro (tellsStructure_iff.2 rfl) (tellsRequirement_iff.2 rfl)

/-! ### Unbroken lines -/

@[simp]
theorem isUnbroken_kind (k : PropertyKind) : IsUnbroken k.name := by
  cases k <;> decide +kernel

@[simp]
theorem isUnbroken_container (g : PropertyGroup) : IsUnbroken g.containerName := by
  cases g <;> decide +kernel

@[simp]
theorem isUnbroken_form (f : SignatureForm) : IsUnbroken f.name := by
  cases f <;> decide +kernel

@[simp]
theorem isUnbroken_padRight {width : Nat} {text : String} :
    IsUnbroken (padRight width text) ↔ IsUnbroken text := by
  simp [padRight, IsUnbroken]

@[simp]
theorem isUnbroken_place (p : Placement) : IsUnbroken p.name := by
  cases p with
  | group g => exact isUnbroken_container g
  | allDataObjects => decide

theorem isUnbroken_headerLine {id : Option String} :
    IsUnbroken (headerLine index id) ↔ ∀ shown ∈ id, IsUnbroken shown := by
  have hindex : IsUnbroken (toString index) := isUnbroken_repr index
  have hwords : IsUnbroken "Signature " ∧ IsUnbroken " (Id " ∧ IsUnbroken ")" := by decide
  unfold headerLine
  simp only [isUnbroken_append, isUnbroken_toString, hindex, hwords]
  cases id with
  | none => decide
  | some shown => simp

theorem isUnbroken_referencesLine {references : List String} :
    IsUnbroken ("  references: " ++ ", ".intercalate references) ↔
      ∀ id ∈ references, IsUnbroken id := by
  have hwords : IsUnbroken "  references: " := by decide
  rw [isUnbroken_append, isUnbroken_intercalate (by decide), and_iff_right hwords]

theorem isUnbroken_entryLine {e : LayoutEntry} :
    IsUnbroken (entryLine e) ↔ ∀ target ∈ e.targets, IsUnbroken target := by
  have hplace :
      IsUnbroken ("  " ++ padRight 30 e.container.containerName ++ " " ++ e.kind.name) := by
    simp only [isUnbroken_append, isUnbroken_padRight, isUnbroken_container, isUnbroken_kind]
    decide
  have hwords : IsUnbroken " -> " ∧ IsUnbroken "#" := by decide
  unfold entryLine
  split
  · next hnone => simp [hplace, List.isEmpty_iff.1 hnone]
  · rw [isUnbroken_append, isUnbroken_append, isUnbroken_intercalate (by decide)]
    simp [hplace, hwords]

theorem isUnbroken_misplaced (k : PropertyKind) (p : Placement) :
    IsUnbroken (Error.misplacedProperty k p).message := by
  -- With the place left open the message is unfolded without its name.
  unfold Error.message
  simp only [isUnbroken_append, isUnbroken_toString, isUnbroken_kind, isUnbroken_place]
  decide

/-- What is said about the structure repeats nothing but targets. -/
theorem isUnbroken_violation {e : LayoutEntry} {references : List String}
    {before : List LayoutEntry} {error : Error} (h : e.Violates references before error)
    (htargets : ∀ target ∈ e.targets, IsUnbroken target) : IsUnbroken error.message := by
  cases h with
  | misplaced => exact isUnbroken_misplaced e.kind _
  | again | untargeted =>
    unfold Error.message
    simp only [isUnbroken_append, isUnbroken_toString, isUnbroken_kind]
    decide
  | @target _ _ passed target rest hsplit _ _ htarget =>
    have hunbroken : IsUnbroken target := htargets target (by simp [hsplit])
    cases htarget <;> unfold Error.message <;>
      simp only [isUnbroken_append, isUnbroken_toString, isUnbroken_kind, hunbroken] <;> decide

theorem isUnbroken_structureLine
    (h : ∀ e ∈ s.layout.entries, ∀ target ∈ e.targets, IsUnbroken target) :
    IsUnbroken (structureLine s.check) := by
  cases hcheck : s.check with
  | ok u =>
    show IsUnbroken "  structure: OK"
    decide
  | error error =>
    obtain ⟨i, entry, hentry, -, hviolates⟩ :=
      PropertyLayout.fault?_eq_some_iff.1 (PropertyLayout.checkFrom_eq_error_iff.1 hcheck)
    have hmessage := isUnbroken_violation hviolates (h entry (List.mem_of_getElem? hentry))
    unfold structureLine
    simp only [isUnbroken_append, isUnbroken_toString, hmessage]
    decide

theorem isUnbroken_formLine (f : Option SignatureForm) : IsUnbroken (formLine f) := by
  cases f with
  | none => decide
  | some f =>
    unfold formLine
    simp only [isUnbroken_append, Option.map_some, Option.getD_some, isUnbroken_form]
    decide

theorem isUnbroken_requiredLine {f : SignatureForm} {line : String}
    (h : line ∈ requiredLine s f) : IsUnbroken line := by
  unfold requiredLine at h
  split at h
  · cases h
  · next e hcheck =>
    obtain ⟨missing, -, rfl⟩ := SignatureForm.check_eq_error_iff.1 hcheck
    obtain rfl := List.mem_singleton.1 h
    unfold Error.message
    simp only [isUnbroken_append, isUnbroken_toString, isUnbroken_form, isUnbroken_kind]
    decide

end Report

/-! ## Texts of the document -/

namespace ScannedSignature

variable {s : ScannedSignature} {index : Nat} {required : Option SignatureForm}

/-- The texts of the document that a report shows: the identifier of the signature, those of its
references, and what its properties point at. -/
def shownTexts (s : ScannedSignature) : List String :=
  s.id.toList ++ s.layout.references ++ s.layout.entries.flatMap LayoutEntry.targets

/-- The lines of a report are unbroken exactly if the texts that it shows are. -/
theorem isUnbroken_reportLines_iff :
    (∀ line ∈ s.reportLines index required, IsUnbroken line) ↔
      ∀ text ∈ s.shownTexts, IsUnbroken text := by
  have hqualified : ∀ line ∈ if s.isQualified then [] else ["  no QualifyingProperties"],
      IsUnbroken line := by
    split <;> decide
  have hrequired : ∀ line ∈ (required.map (Report.requiredLine s)).getD [], IsUnbroken line := by
    cases required with
    | none => exact fun _ h => nomatch h
    | some f => exact fun _ h => Report.isUnbroken_requiredLine h
  simp only [reportLines, shownTexts, List.forall_mem_append, List.forall_mem_cons,
    List.forall_mem_map, List.forall_mem_flatMap, Option.mem_toList,
    Report.isUnbroken_headerLine, Report.isUnbroken_referencesLine, Report.isUnbroken_entryLine,
    Report.isUnbroken_formLine]
  constructor
  · rintro ⟨⟨⟨⟨⟨hid, hreferences, -⟩, -⟩, htargets⟩, -⟩, -⟩
    exact ⟨⟨hid, hreferences⟩, htargets⟩
  · rintro ⟨⟨hid, hreferences⟩, htargets⟩
    exact ⟨⟨⟨⟨⟨hid, hreferences, nofun⟩, hqualified⟩, htargets⟩,
      Report.isUnbroken_structureLine htargets, trivial, nofun⟩, hrequired⟩

/-- The lines of a report are found again exactly if the texts that it shows are unbroken. -/
theorem lines_report_eq_iff :
    Line.lines (s.report index required) = s.reportLines index required ↔
      ∀ text ∈ s.shownTexts, IsUnbroken text :=
  Line.lines_ofLines_eq_iff.trans isUnbroken_reportLines_iff

end ScannedSignature

/-! ## Reports on documents -/

namespace Xml.Document

/-- **A report has the lines of a report, broken where a text of the document is.**  For every
signature that a scan reads, at whatever place in the output and with whatever form required: what
stands before the line feeds of the report are the parts of its lines, one after the other.  These
are the lines themselves if and only if no identifier and no target that is shown holds a line feed.
The verdict on the structure is the one of the check. -/
theorem lines_report {d : Document} {results : List ScannedSignature} (hscan : d.scan = .ok results)
    {s : ScannedSignature} (hs : s ∈ results) (index : Nat) (required : Option SignatureForm) :
    (∃ path element, d.SignatureAt path element ∧ Scan.Reads element s) ∧
    (∃ shown, Report.Lists s index required shown ∧
      Line.lines (s.report index required) = shown.flatMap Line.parts ∧
      (Line.lines (s.report index required) = shown ↔ ∀ text ∈ s.shownTexts, IsUnbroken text)) ∧
    ∀ verdict, Report.TellsStructure s verdict →
      (verdict = "  structure: OK" ↔ s.check = .ok ()) := by
  refine ⟨?_, ⟨_, Report.lists_iff.2 rfl, Line.lines_ofLines _,
    ScannedSignature.lines_report_eq_iff⟩, fun verdict h => h.eq_ok_iff⟩
  obtain ⟨-, hread⟩ := scan_eq_ok_iff.1 hscan
  obtain ⟨element, helement, hsignature⟩ := exists_of_forall₂ hread hs
  obtain ⟨path, hpath⟩ := d.listsInOrder_signatureElements.mem_iff.1 helement
  exact ⟨path, element, hpath, Scan.reads_of_signature hsignature⟩

/-- The outer signature of `countersigned`, which is not even a basic one. -/
theorem lines_report_countersigned :
    let s : ScannedSignature :=
      ⟨some "S", true, ⟨["R"], [⟨.dataObjectFormat, .signedDataObject, ["R"]⟩,
        ⟨.counterSignature, .unsignedSignature, []⟩]⟩⟩
    countersigned.scan = .ok [s, ⟨some "C", false, ⟨[], []⟩⟩] ∧
      Line.lines (s.report 0 (some .t)) =
        ["Signature 0 (Id S)", "  references: R",
          "  SignedDataObjectProperties     DataObjectFormat -> #R",
          "  UnsignedSignatureProperties    CounterSignature", "  structure: OK", "  form: none",
          "  required form T: signature form T requires a SigningCertificate property"] := by
  intro s
  have hscan : countersigned.scan = .ok [s, ⟨some "C", false, ⟨[], []⟩⟩] := rfl
  obtain ⟨-, ⟨shown, hlists, -, hiff⟩, -⟩ := lines_report hscan List.mem_cons_self 0 (some .t)
  refine ⟨hscan, (hiff.2 (by decide)).trans ((Report.lists_iff.1 hlists).trans ?_)⟩
  decide +kernel

/-- A document of a signature that has nothing but an identifier of three lines. -/
def forgingText : String :=
  "<Signature xmlns='http://www.w3.org/2000/09/xmldsig#' Id='S&#10;  form: A&#10;'>
    <SignedInfo/>
  </Signature>"

/-- The identifier makes a line that says the signature has the archival form.  It has none, and the
lines are not those of a report on it. -/
theorem exists_forged_report :
    ∃ d s, parse forgingText = .ok d ∧ d.scan = .ok [s] ∧ s.form? = none ∧
      "  form: A" ∈ Line.lines (s.report 0 none) ∧
        ¬ Report.Lists s 0 none (Line.lines (s.report 0 none)) := by
  let s : ScannedSignature := ⟨some "S\n  form: A\n", false, ⟨[], []⟩⟩
  have hresults : (parse forgingText >>= fun d => d.scan) = .ok [s] := by decide +kernel
  obtain ⟨d, hparse, hscan⟩ := bind_eq_ok_iff.1 hresults
  refine ⟨d, s, hparse, hscan, by decide +kernel, by decide +kernel, ?_⟩
  rw [Report.lists_iff, ScannedSignature.lines_report_eq_iff]
  decide +kernel

end Xml.Document

end AdvancedSignature
