import RefStability.Liveness.Window
import RefStability.Path.Trace

/-!
Which bindings of reference locals are live at a position, found in one pass over the events.
-/

namespace RefStability

/-- A binding with the part of its window that the events so far give. -/
structure Tracked where
  binding : Binding
  window : Window

/-- A loop item is live in the body of its loop, any other binding from its position on. -/
def Tracked.ofBinding (binding : Binding) : Tracked where
  binding := binding
  window :=
    match binding.kind with
    | .loopItem body => .covering body.start body.stop
    | _ => .openAt binding.position

/-- Ends the window of a binding where the expression that replaces it starts. -/
def Tracked.replacedBy (tracked : Tracked) (binding : Binding) : Tracked :=
  if tracked.binding.isLoopItem then tracked
  else { tracked with window := tracked.window.closeAt binding.producer.span.start }

/-- The bindings that may still be found live, at most one for each local, and those that have
been found live, in the order of their finding. -/
structure Scan where
  tracked : List Tracked
  found : List Tracked

namespace Scan

def initial : Scan := ⟨[], []⟩

def tracked? (scan : Scan) (target : LocalId) : Option Tracked :=
  scan.tracked.find? fun tracked => tracked.binding.target == target

def forget (scan : Scan) (target : LocalId) : List Tracked :=
  scan.tracked.filter fun tracked => tracked.binding.target != target

def bind (position : Nat) (scan : Scan) (binding : Binding) : Scan where
  tracked := scan.forget binding.target ++ [.ofBinding binding]
  found :=
    match scan.tracked? binding.target with
    | none => scan.found
    | some old =>
      let closed := old.replacedBy binding
      if closed.window.straddles position then scan.found ++ [closed] else scan.found

def use (position : Nat) (scan : Scan) (target : LocalId) (usedAt : Nat) : Scan :=
  match scan.tracked? target with
  | none => scan
  | some tracked =>
    if tracked.binding.isLoopItem then scan
    else
      let extended : Tracked := { tracked with window := tracked.window.extendTo usedAt }
      if extended.window.straddles position then
        { tracked := scan.forget target, found := scan.found ++ [extended] }
      else
        { scan with
          tracked := scan.tracked.map fun other =>
            if other.binding.target == target then extended else other }

def step (position : Nat) (scan : Scan) : Event → Scan
  | .bind binding => scan.bind position binding
  | .use target expr => scan.use position target expr.span.start

/-- All bindings found live, those still tracked at the end included. -/
def finish (position : Nat) (scan : Scan) : List Tracked :=
  scan.found ++ scan.tracked.filter fun tracked => tracked.window.straddles position

end Scan

/-- The bindings of reference locals whose windows contain a position. -/
def Body.tracksAt (body : Body Site) (position : Nat) : List Tracked :=
  let events := body.events.filter fun event => body.isRefLocal event.target
  (events.foldl (Scan.step position) .initial).finish position

structure LiveBinding where
  binding : Binding
  name : String
  window : Window
  path : Path

namespace Analysis

variable (analysis : Analysis)

/-- A binding that cannot be traced is left out. -/
def liveBinding? (tracked : Tracked) : Option LiveBinding := do
  let declared ← analysis.body.locals[tracked.binding.target]?
  let path := analysis.bindingPath tracked.binding
  if path.isRepresentable then
    return { binding := tracked.binding, name := declared.name, window := tracked.window, path }
  else none

def liveAt (position : Nat) : List LiveBinding :=
  (analysis.body.tracksAt position).filterMap analysis.liveBinding?

end Analysis

end RefStability
