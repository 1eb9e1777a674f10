import AdvancedSignature.Scan

/-!
# Reports

What the command line says: the report on a scanned signature and the table of kinds.  A report
is a list of lines, of which `ScannedSignature.report` makes the text.
-/

namespace AdvancedSignature

namespace Report

/-- The text filled with spaces from the right to the given width. -/
def padRight (width : Nat) (s : String) : String :=
  s ++ String.ofList (List.replicate (width - s.length) ' ')

/-- The text that consists of the lines. -/
def ofLines (lines : List String) : String := String.join (lines.map (· ++ "\n"))

/-- The line of a property. -/
def entryLine (e : LayoutEntry) : String :=
  let place := "  " ++ padRight 30 e.container.containerName ++ " " ++ e.kind.name
  if e.targets.isEmpty then place
  else place ++ " -> " ++ String.intercalate ", " (e.targets.map fun t => "#" ++ t)

/-- The line of the structure check. -/
def structureLine : Except Error Unit → String
  | .ok _ => "  structure: OK"
  | .error e => s!"  structure: INVALID: {e.message}"

/-- The line of the form. -/
def formLine (f : Option SignatureForm) : String :=
  "  form: " ++ (f.map SignatureForm.name).getD "none"

/-- The line of a required form, unless the signature has it. -/
def requiredLine (s : ScannedSignature) (required : SignatureForm) : List String :=
  match s.checkForm required with
  | .ok _ => []
  | .error e => [s!"  required form {required.name}: {e.message}"]

/-- The first line of a report. -/
def headerLine (index : Nat) (id : Option String) : String :=
  let shown := id.getD "-"
  s!"Signature {index} (Id {shown})"

/-- The line of the table of kinds for a kind. -/
def kindLine (kind container policy targets : String) : String :=
  padRight 32 kind ++ " " ++ padRight 30 container ++ " " ++ padRight 7 policy ++ " " ++ targets

/-- The table of kinds. -/
def kindsTable : String :=
  ofLines (kindLine "KIND" "CONTAINER" "POLICY" "TARGETS" ::
    PropertyKind.values.map fun k =>
      kindLine k.name k.group.containerName k.insertionPolicy.name
        ((k.multiplicity?.map Multiplicity.name).getD "-"))

/-- The name of the program and its version. -/
def version : String := ofLines ["xades 0.1.0"]

end Report

namespace ScannedSignature

/-- The lines of the report on the signature at a position. -/
def reportLines (s : ScannedSignature) (index : Nat) (required : Option SignatureForm) :
    List String :=
  [Report.headerLine index s.id,
    "  references: " ++ String.intercalate ", " s.layout.references] ++
  (if s.isQualified then [] else ["  no QualifyingProperties"]) ++
  s.layout.entries.map Report.entryLine ++
  [Report.structureLine s.check, Report.formLine s.form?] ++
  (required.map (Report.requiredLine s)).getD []

/-- The report on the signature at a position. -/
def report (s : ScannedSignature) (index : Nat) (required : Option SignatureForm) : String :=
  Report.ofLines (s.reportLines index required)

/-- Whether the structure is right and the signature has the required form. -/
def passes (s : ScannedSignature) (required : Option SignatureForm) : Bool :=
  s.check.isOk && required.all fun f => (s.checkForm f).isOk

end ScannedSignature

end AdvancedSignature
