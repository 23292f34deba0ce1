import RefStability.Program.Walk

/-!
Binding events: where locals are bound and where they are used, in source order.
-/

namespace RefStability

/-- A local is bound by a statement, once per element by a loop with the given body, or by a callee
to which it is passed `out`. -/
inductive BindingKind where
  | ordinary
  | loopItem (body : Span)
  | external
deriving DecidableEq, Repr

/-- The binding holds from `position` on. -/
structure Binding where
  target : LocalId
  producer : Expr Site
  kind : BindingKind
  span : Span
  position : Nat
deriving Repr

def Binding.isLoopItem (binding : Binding) : Bool :=
  match binding.kind with
  | .loopItem _ => true
  | _ => false

inductive Event where
  | bind (binding : Binding)
  | use (target : LocalId) (expr : Expr Site)
deriving Repr

def Event.target : Event → LocalId
  | .bind binding => binding.target
  | .use target _ => target

def Event.position : Event → Nat
  | .bind binding => binding.position
  | .use _ expr => expr.span.start

def Event.binding? : Event → Option Binding
  | .bind binding => some binding
  | .use _ _ => none

mutual

def Expr.events : Expr Site → List Event
  | .literal _ => []
  | .localVar site target => [.use target (.localVar site target)]
  | .param _ _ => []
  | .staticField _ _ _ => []
  | .field _ receiver _ _ => receiver.events
  | .index _ receiver operands _ => receiver.events ++ Expr.eventsList operands
  | .slice _ receiver operands _ => receiver.events ++ Expr.eventsList operands
  | .scopeValue _ scope _ => scope.events
  | .call _ _ args _ => Expr.eventsArgs args
  | .computed _ operands _ => Expr.eventsList operands

def Expr.eventsList : List (Expr Site) → List Event
  | [] => []
  | expr :: rest => expr.events ++ Expr.eventsList rest

/-- A local passed `out` is bound where the argument ends, and not used. -/
def Expr.eventsArgs : List (PassMode × Expr Site) → List Event
  | [] => []
  | (.out, .localVar site target) :: rest =>
    .bind { target, producer := .localVar site target, kind := .external, span := site.span,
            position := site.span.stop } ::
      Expr.eventsArgs rest
  | (_, expr) :: rest => expr.events ++ Expr.eventsArgs rest

end

/-- A statement binds its target where the statement ends. -/
def bindingAt (site : Site) (target : LocalId) (producer : Expr Site) : Event :=
  .bind { target, producer, kind := .ordinary, span := site.span, position := site.span.stop }

/-- A loop binds its item where the collection ends. -/
def loopBindingAt (site : Site) (item : LocalId) (collection : Expr Site) (body : Site) : Event :=
  .bind { target := item, producer := collection, kind := .loopItem body.span, span := site.span,
          position := collection.span.stop }

mutual

def Stmt.events : Stmt Site → List Event
  | .declare _ _ none => []
  | .declare site target (some init) => init.events ++ [bindingAt site target init]
  | .rebind site target value => value.events ++ [bindingAt site target value]
  | .assign _ target value => target.events ++ value.events
  | .eval _ value => value.events
  | .ret _ none => []
  | .ret _ (some value) => value.events
  | .block _ stmts => Stmt.eventsList stmts
  | .ifThen _ condition thenBody => condition.events ++ Stmt.eventsBlock thenBody
  | .ifElse _ condition thenBody elseBody =>
    condition.events ++ Stmt.eventsBlock thenBody ++ Stmt.eventsBlock elseBody
  | .loop _ condition body => condition.events ++ Stmt.eventsBlock body
  | .forEach site item collection body =>
    collection.events ++ loopBindingAt site item collection body.label :: Stmt.eventsBlock body

def Stmt.eventsBlock : Block Site (Stmt Site) → List Event
  | ⟨_, stmts⟩ => Stmt.eventsList stmts

def Stmt.eventsList : List (Stmt Site) → List Event
  | [] => []
  | stmt :: rest => stmt.events ++ Stmt.eventsList rest

end

def Body.events (body : Body Site) : List Event := Stmt.eventsBlock body.root

def Body.bindingsOf (body : Body Site) (target : LocalId) : List Binding :=
  (body.events.filterMap Event.binding?).filter fun binding => binding.target == target

def Body.usesOf (body : Body Site) (target : LocalId) : List (Expr Site) :=
  body.events.filterMap fun
    | .use used expr => if used = target then some expr else none
    | .bind _ => none

/-- The last binding of a local that holds at a position. -/
def Body.resolveAt? (body : Body Site) (target : LocalId) (position : Nat) : Option Binding :=
  (body.bindingsOf target).reverse.find? fun binding => binding.position ≤ position

/-- The binding that an expression sees, if it names a local. -/
def Body.resolve? (body : Body Site) : Expr Site → Option Binding
  | .localVar site target => body.resolveAt? target site.span.start
  | _ => none

end RefStability
