import NavStream.Cli.Run

/-!
# The program's outer layer

Reads the files that the arguments name and prints what the program makes of them.
-/

namespace NavStream

open NavStream.Cli

/-- What the name of a file leads to. -/
def readResource (path : String) : IO Resource := do
  try
    return .file (← IO.FS.readBinFile path).toList
  catch
    | .noFileOrDirectory .. => return .missing
    | .inappropriateType _ code _ => return if code = 21 then .directory else .notDirectory
    | .invalidArgument .. => return .nameTooLong
    | error => return .unavailable (toString error)

end NavStream

/-- The program. -/
def main (arguments : List String) : IO UInt32 := do
  let named ← (NavStream.Cli.filesOf arguments).mapM fun path => do
    return (path, ← NavStream.readResource path)
  let files := fun path => (named.lookup path).getD .missing
  let outcome := NavStream.Cli.run arguments files (← IO.getEnv "GNSS_LOG")
  IO.print outcome.stdout
  IO.eprint outcome.stderr
  return outcome.exitCode.toUInt32
