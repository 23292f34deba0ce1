import RefStability.Config
import RefStability.Json.Printer

/-!
Checking a program: its diagnostics, as text or as JSON, and whether any of them is an error.
-/

namespace RefStability

/-- What a command prints, and whether it has found an error. -/
structure Report where
  output : String
  hasErrors : Bool
deriving DecidableEq, Repr

inductive Format where
  | text
  | json
deriving DecidableEq, Repr

def Format.ofName? : String → Option Format
  | "text" => some .text
  | "json" => some .json
  | _ => none

def line (text : String) : String := text ++ "\n"

def Diagnostic.isError (diagnostic : Diagnostic) : Bool := diagnostic.level == .error

def Diagnostic.render (diagnostic : Diagnostic) : String :=
  line (diagnostic.level.name ++ ": " ++ diagnostic.message ++ " [" ++ diagnostic.rule ++ "]") ++
    line ("  --> " ++ diagnostic.location.render ++ " in `" ++ diagnostic.method ++ "`") ++
    diagnostic.suggestion.elim "" (fun suggestion => line ("  help: " ++ suggestion)) ++
    line ""

namespace Config

def renderHeading (config : Config) (name : String) : String :=
  line ("Checking " ++ name) ++ line ("  Rules: " ++ ", ".intercalate config.linter.ruleNames)

end Config

def renderIssues (diagnostics : List Diagnostic) : String :=
  let errors := diagnostics.countP Diagnostic.isError
  let warnings := diagnostics.countP (·.level == .warning)
  line s!"\nFound {diagnostics.length} issues found:\n" ++
    String.join (diagnostics.map Diagnostic.render) ++
    line s!"Summary: {errors} errors, {warnings} warnings"

/-- Each way to report the diagnostics of a program gives a verdict of its own. -/
def Config.check (config : Config) (format : Format) (name : String) (program : Program Site) :
    Report :=
  let diagnostics := config.diagnose program
  let errors := diagnostics.countP Diagnostic.isError
  match format with
  | .json =>
    { output := line (Json.ofList Diagnostic.toJson diagnostics).pretty, hasErrors := 0 < errors }
  | .text =>
    if diagnostics.isEmpty then
      { output := config.renderHeading name ++ line "\nSuccess: No issues found"
        hasErrors := false }
    else
      { output := config.renderHeading name ++ renderIssues diagnostics, hasErrors := 0 < errors }

end RefStability
