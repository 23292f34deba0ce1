import RefStability.Span

/-!
Findings: what may go wrong with the references of a body.
-/

namespace RefStability

inductive Finding where
  | invalidatedReference (call : Location) (method mutator victim victimPath : String)
      (binding : Location)
  | aliasedArguments (call : Location) (method first second : String) (secondArgument : Location)
  | unverifiable (argument : Location) (reason : String)
  | escapesScope (statement : Location) (path : String)
deriving DecidableEq, Repr

namespace Finding

def location : Finding → Location
  | .invalidatedReference call _ _ _ _ _ => call
  | .aliasedArguments call _ _ _ _ => call
  | .unverifiable argument _ => argument
  | .escapesScope statement _ => statement

def title : Finding → String
  | .invalidatedReference _ _ _ _ _ _ => "call may invalidate a live reference"
  | .aliasedArguments _ _ _ _ _ => "arguments may alias dynamically sized storage"
  | .unverifiable _ _ => "reference cannot be verified"
  | .escapesScope _ _ => "reference escapes its access scope"

def message : Finding → String
  | .invalidatedReference _ method mutator victim victimPath _ =>
    "Calling `" ++ method ++ "` with `" ++ mutator ++ "` may resize it while `" ++ victim ++
      "` still refers to `" ++ victimPath ++ "`"
  | .aliasedArguments _ method first second _ =>
    "Arguments `" ++ first ++ "` and `" ++ second ++ "` of `" ++ method ++
      "` may refer to the same dynamically sized storage"
  | .unverifiable _ reason => "Cannot trace this reference to its origin: " ++ reason
  | .escapesScope _ path =>
    "Returning `" ++ path ++ "` lets a reference outlive the access scope it came from"

end Finding

end RefStability
