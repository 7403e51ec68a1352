import CaptureLink.CommandLine

/-
  The program on the real machine.

  Key definitions include:
    * `CommandLine.Machine.real`
    * `main`
-/

namespace CaptureLink

namespace CommandLine

/- A problem that the system reports, by its kind or number. -/
def problemOf : IO.Error → FileProblem
| .noFileOrDirectory _ _ _ => .missing
| .inappropriateType _ 21 _ => .directory
| .inappropriateType _ 20 _ => .notDirectory
| .invalidArgument _ 36 _ => .tooLong
| e => .other e.toString

/- Read a file. -/
def readReal (name : String) :
    IO (Except FileProblem (List UInt8)) := do
  try
    let content ← IO.FS.readBinFile name
    return .ok content.toList
  catch e => return .error (problemOf e)

/- Write a file. -/
def writeReal (name : String) (content : List UInt8) :
    IO (Except FileProblem Unit) := do
  try
    IO.FS.writeBinFile name ⟨content.toArray⟩
    return .ok ()
  catch e => return .error (problemOf e)

/- There is a file or a directory of this name. -/
def existsReal (name : String) : IO Bool := do
  try
    let _ ← IO.FS.Handle.mk name .read
    return true
  catch
  | .permissionDenied _ _ _ => return true
  | _ => return false

/-
  The real machine.  It has no network of its own, and its
  readers give no reasons.
-/
def Machine.real : Machine IO where
  read := readReal
  write := writeReal
  present := existsReal
  input := do
    let content ← (← IO.getStdin).readBinToEnd
    return content.toList
  setting := fun name => IO.getEnv name
  home := return some "/root"
  words := .constant "*"
  listen := fun settings _ =>
    return .error (.network
      ("Failed to bind " ++ settings.address.text ++
        ": no network is available"))

end CommandLine

end CaptureLink

/- Run the program. -/
def main (arguments : List String) : IO UInt32 := do
  let outcome ←
    CaptureLink.CommandLine.run
      CaptureLink.CommandLine.Machine.real arguments
  (← IO.getStdout).putStr outcome.output
  (← IO.getStderr).putStr outcome.errors
  return outcome.code.toUInt32
