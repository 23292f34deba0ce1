import RefStability.Finding.Basic
import RefStability.Liveness.Scan
import RefStability.Path.Relation

/-!
Checking the calls and returns of a body.
-/

namespace RefStability

namespace Analysis

variable (analysis : Analysis)

def locate (span : Span) : Location := analysis.body.locate span

/-- A call to a method about whose result something is known reads storage and does not resize
it. -/
def isReferenceHelper (id : MethodId) (method : Method Site) : Bool :=
  method.kind != .plain || (analysis.templates.get? id).isSome

def refArguments (args : List (PassMode × Expr Site)) : List (Expr Site) :=
  args.filterMap fun (mode, expr) => if mode = .ref then some expr else none

def untraceable (arguments : List (Expr Site)) : List Finding :=
  arguments.filterMap fun expr =>
    match analysis.trace expr none with
    | .ok _ => none
    | .error failure => some (.unverifiable (analysis.locate expr.span) failure.message)

def tracedArguments (arguments : List (Expr Site)) : List (Expr Site × Path) :=
  arguments.filterMap fun expr =>
    match analysis.trace expr none with
    | .ok path => some (expr, path)
    | .error _ => none

/-- Every argument that leads to resizable storage against every live reference into it. -/
def invalidations (call : Span) (method : Method Site) (paths : List (Expr Site × Path)) :
    List Finding :=
  let live := analysis.liveAt call.start
  (paths.filter fun (_, path) => path.isAnchor).flatMap fun (_, mutator) =>
    (live.filter fun reference => mutator.canInvalidate reference.path).map fun reference =>
      .invalidatedReference (analysis.locate call) method.signature mutator.render reference.name
        reference.path.render (analysis.locate reference.binding.span)

/-- Every two arguments that may give access to the same storage, in order. -/
def aliases (call : Span) (method : Method Site) : List (Expr Site × Path) → List Finding
  | [] => []
  | (_, first) :: rest =>
    ((rest.filter fun (_, second) => first.canAlias second || second.canAlias first).map
      fun (expr, second) =>
        .aliasedArguments (analysis.locate call) method.signature first.render second.render
          (analysis.locate expr.span)) ++
      aliases call method rest

def checkCall : Expr Site → List Finding
  | .call site id args _ =>
    match analysis.program.methods[id]? with
    | none => []
    | some method =>
      let arguments := refArguments args
      let paths := analysis.tracedArguments arguments
      analysis.untraceable arguments ++
        (if analysis.isReferenceHelper id method then []
         else analysis.invalidations site.span method paths) ++
        analysis.aliases site.span method paths
  | _ => []

def returnsRef : Bool := (analysis.program.methods[analysis.body.method]?).any (·.returnsRef)

def checkReturn? : Stmt Site → Option Finding
  | .ret site (some value) =>
    let path := analysis.path value none
    if analysis.returnsRef && path.isScoped then
      some (.escapesScope (analysis.locate site.span) path.render)
    else none
  | _ => none

def checkNode : Node Site → List Finding
  | .stmt stmt => (analysis.checkReturn? stmt).toList
  | .expr expr => analysis.checkCall expr

/-- The findings at all calls and returns, in source order. -/
def findings : List Finding := analysis.body.nodes.flatMap analysis.checkNode

/-- The expression is of a resizable type, or leads to or through resizable storage. -/
def refersToResizable (expr : Expr Site) : Bool :=
  (analysis.body.exprType? expr).any analysis.isResizable ||
    (analysis.path expr none).crossesResizable

def isTraceable (expr : Expr Site) : Bool := (analysis.trace expr none).isOk

end Analysis

end RefStability
