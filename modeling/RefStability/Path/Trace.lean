import RefStability.Binding.Event
import RefStability.Path.TemplateTable

/-!
Tracing a reference to its root. The walk goes from an expression to what it derives from and puts
each segment in front of those it has; the number of steps is bounded.
-/

namespace RefStability

inductive TraceFailure where
  | unresolved (target : LocalId)
  | externalBinding (target : LocalId)
  | unsupported (expr : Nat)
  | unmodelledCall (signature : String)
  | rejectedTemplate (signature : String)
  | missingArgument (signature : String) (position : Nat)
  | stepLimit (limit : Nat)
deriving DecidableEq, Repr

def TraceFailure.message : TraceFailure → String
  | .unresolved _ => "reference local is not bound before this use"
  | .externalBinding _ => "reference local was bound by an out-argument"
  | .unsupported _ => "expression cannot be traced"
  | .unmodelledCall signature => "call to `" ++ signature ++ "` is not modelled"
  | .rejectedTemplate signature => "path template of `" ++ signature ++ "` was rejected"
  | .missingArgument signature position =>
    "call to `" ++ signature ++ "` has no argument " ++ toString position
  | .stepLimit limit => "path walk exceeded " ++ toString limit ++ " steps"

/-- The segments collected so far and how many of them lie after the boundary; once the boundary is
known the trail is closed. -/
structure Trail where
  segments : List Segment
  fixedSuffix : Nat
  isClosed : Bool
  isScoped : Bool
deriving DecidableEq, Repr

namespace Trail

def empty : Trail := ⟨[], 0, false, false⟩

/-- Puts a segment in front; the last resizable one closes the trail. -/
def push (trail : Trail) (segment : Segment) (isResizable : Bool) : Trail where
  segments := segment :: trail.segments
  fixedSuffix := if trail.isClosed || isResizable then trail.fixedSuffix else trail.fixedSuffix + 1
  isClosed := trail.isClosed || isResizable
  isScoped := trail.isScoped

def splice (trail : Trail) (template : Template) : Trail where
  segments := template.segments ++ trail.segments
  fixedSuffix :=
    if trail.isClosed then trail.fixedSuffix
    else trail.fixedSuffix + template.fixedSuffix.getD template.segments.length
  isClosed := trail.isClosed || template.boundary.isSome
  isScoped := trail.isScoped

def finish (trail : Trail) : Path :=
  .ofSegments trail.segments (trail.segments.length - trail.fixedSuffix) trail.isScoped

end Trail

def defaultMaxSteps : Nat := 256

structure Analysis where
  program : Program Site
  body : Body Site
  templates : TemplateTable
  maxSteps : Nat

/-- The trail after a step, and the expression to go on with unless a root is reached. -/
abbrev TraceStep := Trail × Option (Expr Site)

namespace Analysis

variable (analysis : Analysis)

def isResizable (ty : TypeId) : Bool := analysis.program.isResizable ty

def stepLocal (expr : Expr Site) (target : LocalId) (declared : LocalDecl Site) (trail : Trail) :
    Except TraceFailure TraceStep :=
  match declared.kind with
  | .value => .ok (trail.push (.name declared.name) (analysis.isResizable declared.ty), none)
  | .scopeHandle =>
    .ok ({ trail.push (.name declared.name) (analysis.isResizable declared.ty) with
            isScoped := true }, none)
  | .ref =>
    match analysis.body.resolve? expr with
    | none => .error (.unresolved target)
    | some binding =>
      match binding.kind with
      | .external => .error (.externalBinding target)
      | .loopItem _ =>
        .ok (trail.push .index (analysis.isResizable declared.ty), some binding.producer)
      | .ordinary => .ok (trail, some binding.producer)

def stepArgument (method : Method Site) (args : List (PassMode × Expr Site)) (position : Nat)
    (trail : Trail) : Except TraceFailure TraceStep :=
  match args[position]? with
  | some (_, expr) => .ok (trail, some expr)
  | none => .error (.missingArgument method.signature position)

def stepCall (id : MethodId) (method : Method Site) (args : List (PassMode × Expr Site))
    (ty : TypeId) (trail : Trail) : Except TraceFailure TraceStep :=
  match method.kind with
  | .elementAccessor =>
    stepArgument method args 0 (trail.push .index (analysis.isResizable ty))
  | .viewConversion =>
    stepArgument method args 0 (trail.push (.call method.name) (analysis.isResizable ty))
  | kind =>
    match analysis.templates.get? id with
    | some (.ok template) => stepArgument method args template.rootIndex (trail.splice template)
    | some (.error _) => .error (.rejectedTemplate method.signature)
    | none =>
      if kind = .slice then stepArgument method args 0 trail
      else .error (.unmodelledCall method.signature)

/-- One step from an expression to what it derives from. -/
def step (trail : Trail) : Expr Site → Except TraceFailure TraceStep
  | .literal site => .error (.unsupported site.index)
  | .computed site _ _ => .error (.unsupported site.index)
  | .localVar site target =>
    match analysis.body.locals[target]? with
    | some declared => analysis.stepLocal (.localVar site target) target declared trail
    | none => .error (.unsupported site.index)
  | .param site target =>
    match analysis.body.params[target]? with
    | some declared =>
      .ok (trail.push (.name declared.name) (analysis.isResizable declared.ty), none)
    | none => .error (.unsupported site.index)
  | .staticField _ name ty => .ok (trail.push (.name name) (analysis.isResizable ty), none)
  | .field _ receiver name ty =>
    .ok (trail.push (.name name) (analysis.isResizable ty), some receiver)
  | .index _ receiver _ ty => .ok (trail.push .index (analysis.isResizable ty), some receiver)
  | .slice _ receiver _ _ => .ok (trail, some receiver)
  | .scopeValue _ scope _ => .ok (trail, some scope)
  | .call site id args ty =>
    match analysis.program.methods[id]? with
    | some method => analysis.stepCall id method args ty trail
    | none => .error (.unsupported site.index)

/-- Walks until a root is reached, for at most the given number of steps. -/
def walk : Nat → Trail → Expr Site → Except TraceFailure Path
  | 0, _, _ => .error (.stepLimit analysis.maxSteps)
  | steps + 1, trail, expr =>
    match analysis.step trail expr with
    | .error failure => .error failure
    | .ok (trail, none) => .ok trail.finish
    | .ok (trail, some next) => walk steps trail next

/-- The path of an expression or, given an element type, of an element of what it leads to. -/
def trace (expr : Expr Site) (elementType : Option TypeId) : Except TraceFailure Path :=
  let trail := match elementType with
    | none => .empty
    | some ty => Trail.empty.push .index (analysis.isResizable ty)
  analysis.walk analysis.maxSteps trail expr

def traceBinding (binding : Binding) : Except TraceFailure Path :=
  match binding.kind with
  | .external => .error (.externalBinding binding.target)
  | .loopItem _ =>
    analysis.trace binding.producer ((analysis.body.locals[binding.target]?).map (·.ty))
  | .ordinary => analysis.trace binding.producer none

end Analysis

/-- A failed trace gives the path of what cannot be traced. -/
def pathOrUnrepresentable : Except TraceFailure Path → Path
  | .ok path => path
  | .error _ => .unrepresentable

namespace Analysis

variable (analysis : Analysis)

def path (expr : Expr Site) (elementType : Option TypeId) : Path :=
  pathOrUnrepresentable (analysis.trace expr elementType)

def bindingPath (binding : Binding) : Path :=
  pathOrUnrepresentable (analysis.traceBinding binding)

end Analysis

end RefStability
