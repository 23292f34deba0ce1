import RefStability.Path.Basic
import RefStability.Text.Identifier

/-!
Path templates: how a method's returned reference derives from one of its parameters, written as a
list of tokens. The first token names the parameter; `!` marks the end of resizable storage.
-/

namespace RefStability

inductive TemplateError where
  | empty
  | invalidToken (token : String)
  | invalidRoot (token : String)
  | unknownRoot (root : String)
  | duplicateBoundary
deriving DecidableEq, Repr

def TemplateError.message : TemplateError → String
  | .empty => "path template is empty"
  | .invalidToken token => "invalid path template token `" ++ token ++ "`"
  | .invalidRoot token =>
    "path template must start with a parameter name, found `" ++ token ++ "`"
  | .unknownRoot root =>
    "path template root `" ++ root ++ "` is not a parameter of the method"
  | .duplicateBoundary => "path template declares more than one dynamic boundary"

inductive TemplateStep where
  | boundary
  | segment (segment : Segment)
deriving DecidableEq, Repr

def TemplateStep.ofToken? (token : String) : Option TemplateStep :=
  if token = "!" then some .boundary
  else if token = "[]" then some (.segment .index)
  else if Text.isIdentifier token then some (.segment (.name token))
  else match token.toList.reverse with
    | ')' :: '(' :: reversed =>
      let callee := String.ofList reversed.reverse
      if Text.isIdentifier callee then some (.segment (.call callee)) else none
    | _ => none

/-- Segments, and the number of those before the boundary if there is one. -/
@[ext]
structure TemplateSteps (Step : Type) where
  segments : List Step
  boundary : Option Nat
  boundary_le : ∀ position ∈ boundary, position ≤ segments.length
deriving DecidableEq, Repr

namespace TemplateSteps

variable {Step : Type}

def empty : TemplateSteps Step where
  segments := []
  boundary := none
  boundary_le position hposition := absurd hposition (Option.not_mem_none position)

def push (steps : TemplateSteps Step) (segment : Step) : TemplateSteps Step where
  segments := steps.segments ++ [segment]
  boundary := steps.boundary
  boundary_le position hposition :=
    Nat.le_trans (steps.boundary_le position hposition) (List.sublist_append_left _ _).length_le

/-- Puts the boundary after the segments that there are. -/
def mark (steps : TemplateSteps Step) : TemplateSteps Step where
  segments := steps.segments
  boundary := some steps.segments.length
  boundary_le _ hposition := Nat.le_of_eq (Option.some.inj hposition).symm

end TemplateSteps

structure Template extends TemplateSteps Segment where
  root : String
  rootIndex : Nat
deriving DecidableEq, Repr

namespace Template

/-- Reads the tokens after the root, given what the earlier ones stood for. -/
def readSteps (steps : TemplateSteps Segment) :
    List String → Except TemplateError (TemplateSteps Segment)
  | [] => .ok steps
  | token :: rest =>
    match TemplateStep.ofToken? token with
    | none => .error (.invalidToken token)
    | some (.segment segment) => readSteps (steps.push segment) rest
    | some .boundary =>
      if steps.boundary.isSome then .error .duplicateBoundary else readSteps steps.mark rest

def parse (params : List String) : List String → Except TemplateError Template
  | [] => .error .empty
  | root :: rest =>
    if Text.isIdentifier root then
      match params.idxOf? root with
      | none => .error (.unknownRoot root)
      | some rootIndex => (readSteps .empty rest).map fun steps => { steps with root, rootIndex }
    else .error (.invalidRoot root)

/-- The number of segments after the boundary, if the template has one. -/
def fixedSuffix (template : Template) : Option Nat :=
  template.boundary.map fun boundary => template.segments.length - boundary

end Template

end RefStability
