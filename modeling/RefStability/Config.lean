import RefStability.Lint.Linter
import RefStability.Toml.Document

/-!
Configuration: the bound on tracing, the rules in force and further path templates, read from TOML.
-/

namespace RefStability

structure Config where
  maxSteps : Nat
  lint : LintConfig
  templates : List (String × List String)
deriving DecidableEq, Repr

namespace Config

def default : Config := ⟨defaultMaxSteps, .default, []⟩

def fieldOr {α : Type} (default : α) (decode : Toml.Value → Option α) :
    Option Toml.Value → Option α
  | none => some default
  | some value => decode value

def analysisOfToml? (value : Toml.Value) : Option Nat := do
  match ← value.fields? ["max_walk_steps"] with
  | [maxSteps] => fieldOr defaultMaxSteps Toml.Value.nat? maxSteps
  | _ => none

def lintOfToml? (value : Toml.Value) : Option LintConfig := do
  match ← value.fields? ["unverifiable", "deny", "allow"] with
  | [unverifiable, deny, allow] =>
    return {
      unverifiable := ← fieldOr false Toml.Value.bool? unverifiable
      deny := ← fieldOr [] (Toml.Value.list? Toml.Value.text?) deny
      allow := ← fieldOr [] (Toml.Value.list? Toml.Value.text?) allow }
  | _ => none

def ofToml? (value : Toml.Value) : Option Config := do
  match ← value.fields? ["analysis", "lint", "templates"] with
  | [analysis, lint, templates] =>
    return {
      maxSteps := ← fieldOr defaultMaxSteps analysisOfToml? analysis
      lint := ← fieldOr .default lintOfToml? lint
      templates := ← fieldOr []
        (Toml.Value.entries? (Toml.Value.list? Toml.Value.text?)) templates }
  | _ => none

def parse? (text : String) : Option Config := Toml.parse? text >>= ofToml?

/-- The templates of a program's methods, overridden by the configured ones. -/
def templatesFor (config : Config) (program : Program Site) : TemplateTable :=
  (TemplateTable.ofProgram program).declareAll program config.templates

def linter (config : Config) : Linter :=
  { Linter.ofConfig config.lint with maxSteps := config.maxSteps }

def diagnose (config : Config) (program : Program Site) : List Diagnostic :=
  config.linter.lintProgram program (config.templatesFor program)

end Config

end RefStability
