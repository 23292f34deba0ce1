import RefStability.Command.Arguments
import RefStability.Command.Paths
import RefStability.Document.Decode
import RefStability.Program.Lower

/-!
Running a command: what it prints, why it fails and the exit code, given how files are read.
-/

namespace RefStability

inductive ReadError where
  | noSuchFile
  | notADirectory
  | nameTooLong
  | isADirectory
  | other (cause : String)
deriving DecidableEq, Repr

namespace ReadError

def message : ReadError → String
  | .noSuchFile => "No such file or directory (os error 2)"
  | .notADirectory => "Not a directory (os error 20)"
  | .nameTooLong => "File name too long (os error 36)"
  | .isADirectory => "Is a directory (os error 21)"
  | .other cause => cause

/-- Whether nothing has the name; otherwise something is there that cannot be read. -/
def isMissing : ReadError → Bool
  | .noSuchFile | .notADirectory | .nameTooLong => true
  | .isADirectory | .other _ => false

end ReadError

/-- Indents each line after the first, so that a text can stand under a heading. -/
def hangLines (text : String) : String :=
  String.ofList (text.toList.flatMap fun c =>
    if c == '\n' then ['\n', ' ', ' ', ' ', ' '] else [c])

inductive CommandError where
  | usage
  | configUnreadable (file : String) (cause : ReadError)
  | configRejected (file : String)
  | unknownFormat (format : String)
  | programUnreadable (file : String) (cause : ReadError)
  | programRejected (file : String)
  | programNotLowered (file : String) (cause : LowerError)
  | noBody (method : String)
deriving DecidableEq, Repr

namespace CommandError

def message : CommandError → String
  | .usage => "usage"
  | .configUnreadable file _ => "Failed to read config " ++ file
  | .configRejected file => "Failed to parse config " ++ file
  | .unknownFormat format => "Unknown format: " ++ format
  | .programUnreadable file _ => "Failed to read program " ++ file
  | .programRejected file => "Failed to parse program " ++ file
  | .programNotLowered file _ => "Failed to lower program " ++ file
  | .noBody method => "No method with a body named `" ++ method ++ "`"

def cause? : CommandError → Option String
  | .configUnreadable _ cause => some cause.message
  | .programUnreadable _ cause => some cause.message
  | .programNotLowered _ cause => some cause.message
  | _ => none

def reportedCause? (error : CommandError) : Option String := error.cause?.map hangLines

def exitCode : CommandError → Nat
  | .usage => 2
  | _ => 1

end CommandError

def Report.exitCode (report : Report) : Nat := if report.hasErrors then 1 else 0

def versionReport : Report := ⟨line "refcheck 0.1.0", false⟩

variable (read : String → Except ReadError String)

/-- A configuration file that does not exist stands for the default configuration. -/
def Config.load (file : String) : Except CommandError Config :=
  match read file with
  | .error cause => if cause.isMissing then .ok .default else .error (.configUnreadable file cause)
  | .ok text =>
    match Config.parse? text with
    | some config => .ok config
    | none => .error (.configRejected file)

def Program.load (file : String) : Except CommandError (Program Site) :=
  match read file with
  | .error cause => .error (.programUnreadable file cause)
  | .ok text =>
    match Document.Program.parse? text with
    | none => .error (.programRejected file)
    | some document => document.lower.mapError (.programNotLowered file)

namespace Invocation

def run : Invocation → Except CommandError Report
  | .version => .ok versionReport
  | .check program config format => do
    let config ← Config.load read config
    match Format.ofName? format with
    | none => .error (.unknownFormat format)
    | some format => return config.check format program (← Program.load read program)
  | .paths program method config => do
    let config ← Config.load read config
    match config.listPaths? method (← Program.load read program) with
    | none => .error (.noBody method)
    | some report => return report

end Invocation

def runCommand (arguments : List String) : Except CommandError Report :=
  match Invocation.ofArguments? arguments with
  | none => .error .usage
  | some invocation => invocation.run read

end RefStability
