import AdvancedSignature.Report

/-!
# The command

`Invocation.parse` reads the arguments of the command, and `Command.run` carries it out on the
content of the file that it names.  The exit code is zero when every signature passes, one when
one of them does not or the file cannot be read, and two when the arguments make no sense.
-/

namespace AdvancedSignature

/-- What the command is asked to do. -/
inductive Command where
  /-- Report on the signatures of a file, which may all have to reach a form. -/
  | inspect (file : String) (required : Option SignatureForm)
  /-- List the kinds of properties. -/
  | kinds
  /-- Tell the version. -/
  | version
  deriving DecidableEq, Repr

/-- A command with the options that go with all of them. -/
structure Invocation where
  command : Command
  verbose : Bool := false
  deriving DecidableEq, Repr

namespace Invocation

/-- What is known of the arguments of `inspect` so far. -/
structure InspectArguments where
  file : Option String := none
  required : Option SignatureForm := none
  verbose : Bool := false

namespace InspectArguments

/-- Takes in the file, of which there is one. -/
def withFile (a : InspectArguments) (file : String) : Option InspectArguments :=
  if a.file.isSome ∨ file.isEmpty then none else some { a with file }

/-- Takes in the required form, of which there is at most one. -/
def withForm (a : InspectArguments) (form : String) : Option InspectArguments := do
  if a.required.isSome then none
  else
    let f ← SignatureForm.ofName? form
    return { a with required := some f }

/-- Takes in the option to be verbose, which stands at most once. -/
def withVerbose (a : InspectArguments) : Option InspectArguments :=
  if a.verbose then none else some { a with verbose := true }

end InspectArguments

/-- Whether the argument asks to be verbose. -/
def isVerbose (argument : String) : Bool := argument == "-v" || argument == "--verbose"

/-- Whether the argument is an option rather than a value. -/
def isOption (argument : String) : Bool :=
  match argument.toList with
  | '-' :: _ :: _ => true
  | _ => false

/-- The form in an argument that names the option together with its value. -/
def joinedForm? (argument : String) : Option String :=
  let option := "--require-form=".toList
  if option.isPrefixOf argument.toList then
    some (String.ofList (argument.toList.drop option.length))
  else none

/-- Reads the arguments of `inspect`. -/
def inspectArguments : List String → InspectArguments → Option InspectArguments
  | [], a => some a
  | "--" :: values, a => values.foldlM InspectArguments.withFile a
  | "--require-form" :: form :: rest, a => do
      if isOption form then none else inspectArguments rest (← a.withForm form)
  | argument :: rest, a => do
      if isVerbose argument then inspectArguments rest (← a.withVerbose)
      else
        match joinedForm? argument with
        | some form => inspectArguments rest (← a.withForm form)
        | none =>
            if isOption argument then none else inspectArguments rest (← a.withFile argument)

/-- Reads the arguments of `kinds`: at most the option to be verbose, and whether it is there. -/
def kindsArguments : List String → Bool → Option Bool
  | [], verbose => some verbose
  | ["--"], verbose => some verbose
  | argument :: rest, verbose =>
      if isVerbose argument && !verbose then kindsArguments rest true else none

/-- Reads a command and its arguments. -/
def ofNamed? (name : String) (rest : List String) (verbose : Bool) : Option Invocation := do
  if name = "inspect" then
    let a ← inspectArguments rest {}
    let file ← a.file
    return ⟨.inspect file a.required, verbose || a.verbose⟩
  else if name = "kinds" then
    return ⟨.kinds, verbose || (← kindsArguments rest false)⟩
  else none

/-- Reads the options in front of the name of a command and what follows them.  Being verbose is
asked for at most once, and nothing is read after the version is asked for. -/
def parseFrom (verbose : Bool) : List String → Option Invocation
  | [] => none
  | argument :: rest =>
      if isVerbose argument then if verbose then none else parseFrom true rest
      else if argument = "--version" then some ⟨.version, verbose⟩
      else
        match argument.toList with
        | '-' :: 'V' :: _ => some ⟨.version, verbose⟩
        | '-' :: 'v' :: 'V' :: _ => if verbose then none else some ⟨.version, true⟩
        | _ => ofNamed? argument rest verbose

/-- Reads the arguments of the command, unless they make no sense. -/
def parse (arguments : List String) : Option Invocation := parseFrom false arguments

end Invocation

/-- What the command complains about. -/
inductive Complaint where
  | noSignature (file : String)
  | failure (e : Error)
  deriving DecidableEq, Repr

namespace Complaint

/-- The complaint in words. -/
def message : Complaint → String
  | .noSignature file => s!"{file}: no ds:Signature found"
  | .failure e => s!"Error: {e.message}"

end Complaint

/-- What comes of a command. -/
structure CommandOutcome where
  exitCode : Nat
  report : String := ""
  complaint : Option Complaint := none
  deriving DecidableEq, Repr

namespace Command

/-- The reports on signatures, and whether all of them pass. -/
def inspectSignatures (signatures : List ScannedSignature) (required : Option SignatureForm) :
    CommandOutcome where
  exitCode := if signatures.all fun s => s.passes required then 0 else 1
  report := String.join (signatures.zipIdx.map fun s => s.1.report s.2 required)

/-- The signatures of a document in bytes. -/
def signaturesOf (content : Bytes) : Except Error (List ScannedSignature) := do
  let document ← Xml.Document.ofBytes content
  document.scan

/-- Reports on the signatures of a file with the content. -/
def inspectContent (file : String) (content : Except Error Bytes)
    (required : Option SignatureForm) : CommandOutcome :=
  match content.bind signaturesOf with
  | .error e => { exitCode := 1, complaint := some (.failure e) }
  | .ok [] => { exitCode := 1, complaint := some (.noSignature file) }
  | .ok signatures => inspectSignatures signatures required

/-- Carries out the command; `read` gives the content of a file. -/
def run {m : Type → Type} [Monad m] (read : String → m (Except Error Bytes)) :
    Command → m CommandOutcome
  | .inspect file required => do return inspectContent file (← read file) required
  | .kinds => return { exitCode := 0, report := Report.kindsTable }
  | .version => return { exitCode := 0, report := Report.version }

end Command

end AdvancedSignature
