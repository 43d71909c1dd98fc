import RadioLink.CommandLine.Program

/-!
The program. It reads the files that its words name and prints what they lead to. It has no sockets
of its own, so it finds itself on a network without routes.
-/

set_option autoImplicit false

namespace RadioLink

/-- A system error of a number that may have come with its sign turned, in 32 bits. -/
private def systemErrorOfCode (code : UInt32) : SystemError :=
  .numbered code.toInt32.toInt.natAbs

/-- The failure of the system that an attempt to read a file met. -/
private def systemErrorOf : IO.Error → SystemError
  | .noFileOrDirectory _ code _ => systemErrorOfCode code
  | .permissionDenied _ code _ => systemErrorOfCode code
  | .inappropriateType _ code _ => systemErrorOfCode code
  | .otherError code _ => systemErrorOfCode code
  | error => .described .other (toString error)

private def loadFile (path : String) : IO (Except SystemError Bytes) := do
  try
    let content ← IO.FS.readBinFile path
    return .ok content.toList
  catch error =>
    return .error (systemErrorOf error)

end RadioLink

open RadioLink in
/-- Runs the program on the words of its command line. -/
def main (words : List String) : IO UInt32 := do
  let files ← (CommandLine.files words).mapM fun path => return (path, ← loadFile path)
  let env : CommandLine.Environment := {
    file := fun path => (files.lookup path).getD (.error .noSuchFile)
    network := .isolated }
  let outcome := CommandLine.run env words
  IO.print outcome.output
  IO.eprint outcome.errors
  return UInt32.ofNat outcome.code
