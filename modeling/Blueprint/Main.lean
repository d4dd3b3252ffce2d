import Blueprint.Command

/-!
# The command line
-/

namespace Blueprint

/-- The system reports an error number, either as it is or negated. -/
def isErrorNumber (number code : UInt32) : Bool := code = number || code = 0 - number

/-- The reason for a failure to reach a file. -/
def fileErrorOf : IO.Error → FileError
  | .noFileOrDirectory _ _ _ => .missing
  | .inappropriateType _ code reason =>
    if isErrorNumber 20 code then .notDirectory
    else if isErrorNumber 21 code then .directory
    else .other reason
  | .invalidArgument _ code reason =>
    if isErrorNumber 36 code then .longName else .other reason
  | .userError _ => .notText
  | error => .other (toString error)

/-- The machine that the program runs on. -/
def machine : Host IO where
  program := ⟨"blueprint", "blueprint", "0.1.0"⟩
  read path := do
    try return .ok (← IO.FS.readFile path)
    catch error => return .error (fileErrorOf error)
  write path text := do
    try
      IO.FS.writeFile path text
      return .ok ()
    catch error => return .error (fileErrorOf error)
  clock := IO.monoNanosNow

end Blueprint

/-- Runs the command that the arguments ask for. -/
def main (args : List String) : IO UInt32 := do
  let report ← Blueprint.runCommand Blueprint.machine args
  IO.print report.stdout
  IO.eprint report.stderr
  return report.code.toUInt32
