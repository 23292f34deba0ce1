import RefStability.Path.Template
import RefStability.Program.Basic

/-!
The path templates of a program's methods. A rejected template is kept, so that it does not count as
absent.
-/

namespace RefStability

variable {Label : Type}

/-- One entry per method, in the order of their numbers. -/
structure TemplateTable where
  entries : List (Option (Except TemplateError Template))

inductive DeclareError where
  | unknownMethod (signature : String)
  | invalid (signature : String) (cause : TemplateError)
deriving DecidableEq, Repr

def DeclareError.message : DeclareError → String
  | .unknownMethod signature => "no method matches `" ++ signature ++ "`"
  | .invalid signature cause =>
    "invalid path template for `" ++ signature ++ "`: " ++ cause.message

namespace TemplateTable

def ofProgram (program : Program Label) : TemplateTable where
  entries := program.methods.map fun method => method.path.map (Template.parse method.params)

def get? (table : TemplateTable) (method : MethodId) : Option (Except TemplateError Template) :=
  table.entries[method]?.join

def size (table : TemplateTable) : Nat := table.entries.countP (·.isSome)

def isEmpty (table : TemplateTable) : Bool := table.size == 0

/-- Sets the template of the method with the given signature or name, even if it is rejected. -/
def declare (program : Program Label) (table : TemplateTable) (signature : String)
    (tokens : List String) : Except DeclareError MethodId × TemplateTable :=
  match program.methodNamed? signature with
  | none => (.error (.unknownMethod signature), table)
  | some method =>
    let params := (program.methods[method]?).elim [] (·.params)
    let parsed := Template.parse params tokens
    (match parsed with
      | .ok _ => .ok method
      | .error cause => .error (.invalid signature cause),
     { entries := table.entries.set method (some parsed) })

/-- Sets several templates in order; those that fail leave no other trace. -/
def declareAll (program : Program Label) (table : TemplateTable)
    (declarations : List (String × List String)) : TemplateTable :=
  declarations.foldl (fun table (signature, tokens) => (declare program table signature tokens).2)
    table

end TemplateTable

end RefStability
