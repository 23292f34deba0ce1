import RefStability.Finding.Basic
import RefStability.Json.Basic

/-!
Lint rules: each selects one kind of finding and reports it at a level.
-/

namespace RefStability

inductive Level where
  | info
  | warning
  | error
deriving DecidableEq, Repr

def Level.name : Level → String
  | .info => "info"
  | .warning => "warning"
  | .error => "error"

def Level.names : List (String × Level) :=
  [("info", .info), ("warning", .warning), ("error", .error)]

inductive Rule where
  | resizeInvalidatesReference
  | aliasedDynamicArguments
  | unverifiableReference
  | scopedReferenceEscape
deriving DecidableEq, Repr

namespace Rule

def name : Rule → String
  | .resizeInvalidatesReference => "resize-invalidates-reference"
  | .aliasedDynamicArguments => "aliased-dynamic-arguments"
  | .unverifiableReference => "unverifiable-reference"
  | .scopedReferenceEscape => "scoped-reference-escape"

def all : List Rule :=
  [.resizeInvalidatesReference, .aliasedDynamicArguments, .unverifiableReference,
   .scopedReferenceEscape]

def ofName? (text : String) : Option Rule := all.find? fun rule => rule.name == text

def defaultLevel : Rule → Level
  | .unverifiableReference => .info
  | _ => .error

def suggestion : Rule → String
  | .resizeInvalidatesReference =>
    "Finish using the reference before the call, or obtain it again afterwards"
  | .aliasedDynamicArguments => "Pass references into distinct containers"
  | .unverifiableReference =>
    "Declare a path template on the method that produced this reference"
  | .scopedReferenceEscape =>
    "Return a copy of the value instead of a reference into the scope"

def selects : Rule → Finding → Bool
  | .resizeInvalidatesReference, .invalidatedReference _ _ _ _ _ _ => true
  | .aliasedDynamicArguments, .aliasedArguments _ _ _ _ _ => true
  | .unverifiableReference, .unverifiable _ _ => true
  | .scopedReferenceEscape, .escapesScope _ _ => true
  | _, _ => false

end Rule

structure Diagnostic where
  rule : String
  method : String
  level : Level
  message : String
  location : Location
  suggestion : Option String
deriving DecidableEq, Repr

def Span.toJson (span : Span) : Json :=
  .object [("start", .ofNat span.start), ("end", .ofNat span.stop)]

def Location.toJson (location : Location) : Json :=
  .object [("file", .ofNat location.file), ("span", location.span.toJson)]

def Diagnostic.toJson (diagnostic : Diagnostic) : Json :=
  .object [("rule", .string diagnostic.rule), ("method", .string diagnostic.method),
    ("level", .string diagnostic.level.name), ("message", .string diagnostic.message),
    ("span", diagnostic.location.toJson),
    ("suggestion", .ofOption .string diagnostic.suggestion)]

/-- A rule that is in force, at the level at which it reports. -/
structure ActiveRule where
  rule : Rule
  level : Level
deriving DecidableEq, Repr

def Rule.active (rule : Rule) : ActiveRule := ⟨rule, rule.defaultLevel⟩

def ActiveRule.diagnose (active : ActiveRule) (signature : String) (finding : Finding) :
    Diagnostic where
  rule := active.rule.name
  method := signature
  level := active.level
  message := finding.message
  location := finding.location
  suggestion := some active.rule.suggestion

def ActiveRule.report (active : ActiveRule) (signature : String) (findings : List Finding) :
    List Diagnostic :=
  (findings.filter active.rule.selects).map (active.diagnose signature)

end RefStability
