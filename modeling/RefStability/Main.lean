import RefStability.Command.Run

/-!
The command line program.
-/

namespace RefStability

def readNamed (name : String) : IO (Except ReadError String) := do
  try
    return .ok (← IO.FS.readFile name)
  catch
    | .noFileOrDirectory .. => return .error .noSuchFile
    | .inappropriateType (some _) .. => return .error .notADirectory
    | .inappropriateType none .. => return .error .isADirectory
    | .invalidArgument (some _) .. => return .error .nameTooLong
    | error => return .error (.other (toString error))

def Invocation.files : Invocation → List String
  | .version => []
  | .check program config _ => [config, program]
  | .paths program _ config => [config, program]

def usageText : String :=
  "Usage: refcheck [-v] check PROGRAM [--config FILE] [--format text|json]\n" ++
    "       refcheck [-v] paths PROGRAM --method METHOD [--config FILE]"

def CommandError.render (error : CommandError) : String :=
  match error with
  | .usage => usageText
  | _ =>
    "Error: " ++ error.message ++
      error.reportedCause?.elim "" (fun cause => "\n\nCaused by:\n    " ++ cause)

end RefStability

open RefStability in
def main (arguments : List String) : IO UInt32 := do
  let files := (Invocation.ofArguments? arguments).elim [] Invocation.files
  let contents ← files.mapM fun name => return (name, ← readNamed name)
  let read (name : String) : Except ReadError String :=
    (contents.lookup name).getD (.error .noSuchFile)
  match runCommand read arguments with
  | .ok report =>
    IO.print report.output
    return report.exitCode.toUInt32
  | .error error =>
    (← IO.getStderr).putStrLn error.render
    return error.exitCode.toUInt32
