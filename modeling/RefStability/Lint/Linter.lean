import RefStability.Document.Record
import RefStability.Finding.Check
import RefStability.Lint.Rule

/-!
Linters: the rules in force and the bound on tracing, applied to methods and programs.
-/

namespace RefStability

/-- Which rules are in force: the one on unverifiable references only if asked for, those in
`allow` not, those in `deny` at the level of errors. -/
structure LintConfig where
  unverifiable : Bool
  deny : List String
  allow : List String
deriving DecidableEq, Repr

namespace LintConfig

def default : LintConfig := ⟨false, [], []⟩

def toJson (config : LintConfig) : Json :=
  .object [("unverifiable", .bool config.unverifiable), ("deny", .ofList .string config.deny),
    ("allow", .ofList .string config.allow)]

open Document.Record in
def ofJson? (json : Json) : Option LintConfig := do
  match ← values? ["unverifiable", "deny", "allow"] json with
  | [unverifiable, deny, allow] =>
    return {
      unverifiable := ← orElse false Json.bool? unverifiable
      deny := ← orElse [] (Json.list? Json.text?) deny
      allow := ← orElse [] (Json.list? Json.text?) allow }
  | _ => none

end LintConfig

structure Linter where
  rules : List ActiveRule
  maxSteps : Nat
deriving DecidableEq, Repr

namespace Linter

def standardRules : List Rule :=
  [.resizeInvalidatesReference, .aliasedDynamicArguments, .scopedReferenceEscape]

def withRules (rules : List ActiveRule) : Linter := ⟨rules, defaultMaxSteps⟩

def default : Linter := withRules (standardRules.map Rule.active)

def ofConfig (config : LintConfig) : Linter :=
  let candidates :=
    standardRules ++ if config.unverifiable then [Rule.unverifiableReference] else []
  let kept := candidates.filter fun rule => !config.allow.contains rule.name
  withRules (kept.map fun rule =>
    if config.deny.contains rule.name then ⟨rule, .error⟩ else rule.active)

def ruleNames (linter : Linter) : List String := linter.rules.map (·.rule.name)

/-- The diagnostics of all rules for one method's findings, rule by rule. -/
def report (rules : List ActiveRule) (signature : String) (findings : List Finding) :
    List Diagnostic :=
  rules.flatMap fun active => active.report signature findings

/-- The diagnostics of one method, sorted by where they start; ties keep their order. -/
def lintMethod (linter : Linter) (program : Program Site) (templates : TemplateTable)
    (id : MethodId) : List Diagnostic :=
  match program.methods[id]? with
  | none => []
  | some method =>
    match method.body with
    | none => []
    | some body =>
      let analysis : Analysis := { program, body, templates, maxSteps := linter.maxSteps }
      (report linter.rules method.signature analysis.findings).mergeSort fun left right =>
        left.location.span.start ≤ right.location.span.start

def lintProgram (linter : Linter) (program : Program Site) (templates : TemplateTable) :
    List Diagnostic :=
  (List.range program.methods.length).flatMap (linter.lintMethod program templates)

end Linter

end RefStability
