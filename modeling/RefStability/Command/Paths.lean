import RefStability.Command.Check

/-!
Listing the paths of a body: those of the bindings of its reference locals and those of the arguments
that it passes by reference.
-/

namespace RefStability

structure BindingEntry where
  name : String
  kind : BindingKind
  position : Nat
  path : Except TraceFailure Path

structure ArgumentEntry where
  signature : String
  position : Nat
  location : Location
  path : Except TraceFailure Path

structure PathListing where
  bindings : List BindingEntry
  arguments : List ArgumentEntry

namespace Analysis

variable (analysis : Analysis)

def bindingEntry? (binding : Binding) : Option BindingEntry := do
  let declared ← analysis.body.locals[binding.target]?
  if declared.isRef then
    return { name := declared.name, kind := binding.kind, position := binding.position,
             path := analysis.traceBinding binding }
  else none

def argumentEntries : Expr Site → List ArgumentEntry
  | .call _ id args _ =>
    let signature := (analysis.program.methods[id]?).elim "" (·.signature)
    args.zipIdx.filterMap fun ((mode, expr), position) =>
      if mode = .ref then
        some { signature, position, location := analysis.locate expr.span,
               path := analysis.trace expr none }
      else none
  | _ => []

def listing : PathListing where
  bindings := (analysis.body.events.filterMap Event.binding?).filterMap analysis.bindingEntry?
  arguments := analysis.body.exprs.flatMap analysis.argumentEntries

end Analysis

def renderTraced : Except TraceFailure Path → String
  | .ok path =>
    s!"{path.render} boundary={path.boundary} explicit={path.explicitLength}" ++
      (if path.isScoped then " scoped" else "")
  | .error failure => "not representable (" ++ failure.message ++ ")"

def BindingKind.note : BindingKind → String
  | .ordinary => ""
  | .loopItem _ => " (loop item)"
  | .external => " (out argument)"

def BindingEntry.render (entry : BindingEntry) : String :=
  line ("  " ++ entry.name ++ entry.kind.note ++ s!" @ {entry.position}: " ++
    renderTraced entry.path)

def ArgumentEntry.render (entry : ArgumentEntry) : String :=
  line ("  " ++ entry.signature ++ s!" #{entry.position} @ " ++ entry.location.render ++ ": " ++
    renderTraced entry.path)

def PathListing.render (listing : PathListing) (method : String) : String :=
  line ("Paths in `" ++ method ++ "`") ++
    line "\nReference bindings:" ++ String.join (listing.bindings.map BindingEntry.render) ++
    line "\nBy-reference arguments:" ++ String.join (listing.arguments.map ArgumentEntry.render)

def Config.analysis (config : Config) (program : Program Site) (body : Body Site) : Analysis where
  program := program
  body := body
  templates := config.templatesFor program
  maxSteps := config.maxSteps

/-- Lists the paths of the body of the named method, if there is one. -/
def Config.listPaths? (config : Config) (method : String) (program : Program Site) :
    Option Report :=
  (program.bodyNamed? method).map fun body =>
    { output := (config.analysis program body).listing.render method, hasErrors := false }

end RefStability
