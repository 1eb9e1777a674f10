import AdvancedSignature.Command

/-!
# The program

Reads the arguments and the file, and prints what the command says.
-/

namespace AdvancedSignature

/-- Why a file cannot be read. -/
def readFailure : IO.Error → String
  | .noFileOrDirectory .. => "No such file or directory (os error 2)"
  | .inappropriateType _ code details => s!"{details} (os error {code})"
  | e => toString e

/-- The content of a file. -/
def readFile (file : String) : IO (Except Error Bytes) := do
  try
    let content ← IO.FS.readBinFile file
    return .ok content.data.toList
  catch e => return .error (.io (readFailure e))

end AdvancedSignature

/-- Runs the command. -/
def main (arguments : List String) : IO UInt32 := do
  match AdvancedSignature.Invocation.parse arguments with
  | none =>
      IO.eprintln "usage: inspect FILE [--require-form FORM] | kinds"
      return 2
  | some invocation =>
      let outcome ← invocation.command.run AdvancedSignature.readFile
      IO.print outcome.report
      match outcome.complaint with
      | some complaint => IO.eprintln complaint.message
      | none => pure ()
      return UInt32.ofNat outcome.exitCode
