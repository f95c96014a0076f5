import Monkey.Command.Invocation

/-! The `monkey` command on the files of the system. -/
namespace Monkey

def ReadError.ofSystem : IO.Error → ReadError
  | .noFileOrDirectory .. => .notFound
  | .inappropriateType name code details =>
    if code = 20 ∨ code = -20 then .notDirectory
    else if code = 21 ∨ code = -21 then .isDirectory
    else .other (toString (IO.Error.inappropriateType name code details))
  | .invalidArgument name code details =>
    if code = 36 ∨ code = -36 then .nameTooLong
    else .other (toString (IO.Error.invalidArgument name code details))
  | error => .other (toString error)

def readSource (path : String) : IO (Except ReadError String) := do
  try
    return decodeText (← IO.FS.readBinFile path)
  catch error =>
    return .error (.ofSystem error)

def runCommand (arguments : List String) : IO Report := do
  match Invocation.ofArguments? arguments with
  | none => return .usage
  | some invocation => return invocation.report callDepth (← readSource invocation.path)

end Monkey

def main (arguments : List String) : IO UInt32 := do
  let report ← Monkey.runCommand arguments
  IO.print report.stdout
  IO.eprint report.stderr
  return report.exitCode.toUInt32
