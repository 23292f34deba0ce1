import RefStability.Program.Walk

/-!
Placing a program: every node gets a number and a span. A node takes one position where it starts
and one where it ends, so spans nest like the nodes do.
-/

namespace RefStability

variable {Label : Type}

/-- The next free position, and how many expressions and statements have been numbered. -/
structure Cursor where
  position : Nat
  exprs : Nat
  stmts : Nat
deriving DecidableEq, Repr

namespace Cursor

def tick (cursor : Cursor) : Cursor := { cursor with position := cursor.position + 1 }

/-- The span from `start` to the current position, both included. -/
def spanFrom (cursor : Cursor) (start : Nat) : Span :=
  Span.ofBounds start (cursor.position + 1)

def closeExpr (cursor : Cursor) (start : Nat) : Site × Cursor :=
  (⟨cursor.exprs, cursor.spanFrom start⟩, { cursor.tick with exprs := cursor.exprs + 1 })

def closeStmt (cursor : Cursor) (start : Nat) : Site × Cursor :=
  (⟨cursor.stmts, cursor.spanFrom start⟩, { cursor.tick with stmts := cursor.stmts + 1 })

end Cursor

mutual

def Expr.place : Expr Label → Cursor → Expr Site × Cursor
  | .literal _, cursor =>
    let (site, next) := cursor.tick.closeExpr cursor.position
    (.literal site, next)
  | .localVar _ target, cursor =>
    let (site, next) := cursor.tick.closeExpr cursor.position
    (.localVar site target, next)
  | .param _ target, cursor =>
    let (site, next) := cursor.tick.closeExpr cursor.position
    (.param site target, next)
  | .staticField _ name ty, cursor =>
    let (site, next) := cursor.tick.closeExpr cursor.position
    (.staticField site name ty, next)
  | .field _ receiver name ty, cursor =>
    let (receiver, inner) := receiver.place cursor.tick
    let (site, next) := inner.closeExpr cursor.position
    (.field site receiver name ty, next)
  | .index _ receiver operands ty, cursor =>
    let (receiver, middle) := receiver.place cursor.tick
    let (operands, inner) := Expr.placeList operands middle
    let (site, next) := inner.closeExpr cursor.position
    (.index site receiver operands ty, next)
  | .slice _ receiver operands ty, cursor =>
    let (receiver, middle) := receiver.place cursor.tick
    let (operands, inner) := Expr.placeList operands middle
    let (site, next) := inner.closeExpr cursor.position
    (.slice site receiver operands ty, next)
  | .scopeValue _ scope ty, cursor =>
    let (scope, inner) := scope.place cursor.tick
    let (site, next) := inner.closeExpr cursor.position
    (.scopeValue site scope ty, next)
  | .call _ method args ty, cursor =>
    let (args, inner) := Expr.placeArgs args cursor.tick
    let (site, next) := inner.closeExpr cursor.position
    (.call site method args ty, next)
  | .computed _ operands ty, cursor =>
    let (operands, inner) := Expr.placeList operands cursor.tick
    let (site, next) := inner.closeExpr cursor.position
    (.computed site operands ty, next)

def Expr.placeList : List (Expr Label) → Cursor → List (Expr Site) × Cursor
  | [], cursor => ([], cursor)
  | expr :: rest, cursor =>
    let (expr, middle) := expr.place cursor
    let (rest, next) := Expr.placeList rest middle
    (expr :: rest, next)

def Expr.placeArgs :
    List (PassMode × Expr Label) → Cursor → List (PassMode × Expr Site) × Cursor
  | [], cursor => ([], cursor)
  | (mode, expr) :: rest, cursor =>
    let (expr, middle) := expr.place cursor
    let (rest, next) := Expr.placeArgs rest middle
    ((mode, expr) :: rest, next)

end

def Expr.placeOptional : Option (Expr Label) → Cursor → Option (Expr Site) × Cursor
  | none, cursor => (none, cursor)
  | some expr, cursor =>
    let (expr, next) := expr.place cursor
    (some expr, next)

mutual

def Stmt.place : Stmt Label → Cursor → Stmt Site × Cursor
  | .declare _ target init, cursor =>
    let (init, inner) := Expr.placeOptional init cursor.tick
    let (site, next) := inner.closeStmt cursor.position
    (.declare site target init, next)
  | .rebind _ target value, cursor =>
    let (value, inner) := value.place cursor.tick
    let (site, next) := inner.closeStmt cursor.position
    (.rebind site target value, next)
  | .assign _ target value, cursor =>
    let (target, middle) := target.place cursor.tick
    let (value, inner) := value.place middle
    let (site, next) := inner.closeStmt cursor.position
    (.assign site target value, next)
  | .eval _ value, cursor =>
    let (value, inner) := value.place cursor.tick
    let (site, next) := inner.closeStmt cursor.position
    (.eval site value, next)
  | .ret _ value, cursor =>
    let (value, inner) := Expr.placeOptional value cursor.tick
    let (site, next) := inner.closeStmt cursor.position
    (.ret site value, next)
  | .block _ stmts, cursor =>
    let (stmts, inner) := Stmt.placeList stmts cursor.tick
    let (site, next) := inner.closeStmt cursor.position
    (.block site stmts, next)
  | .ifThen _ condition thenBody, cursor =>
    let (condition, middle) := condition.place cursor.tick
    let (thenBody, inner) := Stmt.placeBlock thenBody middle
    let (site, next) := inner.closeStmt cursor.position
    (.ifThen site condition thenBody, next)
  | .ifElse _ condition thenBody elseBody, cursor =>
    let (condition, early) := condition.place cursor.tick
    let (thenBody, middle) := Stmt.placeBlock thenBody early
    let (elseBody, inner) := Stmt.placeBlock elseBody middle
    let (site, next) := inner.closeStmt cursor.position
    (.ifElse site condition thenBody elseBody, next)
  | .loop _ condition body, cursor =>
    let (condition, middle) := condition.place cursor.tick
    let (body, inner) := Stmt.placeBlock body middle
    let (site, next) := inner.closeStmt cursor.position
    (.loop site condition body, next)
  | .forEach _ item collection body, cursor =>
    let (collection, middle) := collection.place cursor.tick
    let (body, inner) := Stmt.placeBlock body middle
    let (site, next) := inner.closeStmt cursor.position
    (.forEach site item collection body, next)

def Stmt.placeBlock : Block Label (Stmt Label) → Cursor → Block Site (Stmt Site) × Cursor
  | ⟨_, stmts⟩, cursor =>
    let (stmts, inner) := Stmt.placeList stmts cursor.tick
    let (site, next) := inner.closeStmt cursor.position
    (⟨site, stmts⟩, next)

def Stmt.placeList : List (Stmt Label) → Cursor → List (Stmt Site) × Cursor
  | [], cursor => ([], cursor)
  | stmt :: rest, cursor =>
    let (stmt, middle) := stmt.place cursor
    let (rest, next) := Stmt.placeList rest middle
    (stmt :: rest, next)

end

/-- The site of a declaration, which takes one position. -/
def declarationSite (first number : Nat) : Site :=
  ⟨number, Span.ofBounds (first + number) (first + number + 1)⟩

def placeParams (first : Nat) (params : List (ParamDecl Label)) : List (ParamDecl Site) :=
  params.mapIdx fun number param =>
    { label := declarationSite first number, name := param.name, ty := param.ty,
      byRef := param.byRef }

def placeLocals (first : Nat) (locals : List (LocalDecl Label)) : List (LocalDecl Site) :=
  locals.mapIdx fun number declared =>
    { label := declarationSite first number, name := declared.name, ty := declared.ty,
      kind := declared.kind }

/-- Places a body from a position on: the body's start, its parameters, its locals, its root. -/
def Body.place (body : Body Label) (start : Nat) : Body Site × Nat :=
  let firstLocal := start + 1 + body.params.length
  let cursor : Cursor := ⟨firstLocal + body.locals.length, 0, 1⟩
  let (root, inner) := Stmt.placeBlock body.root cursor
  ({ method := body.method, file := body.file
     label := ⟨body.method, inner.spanFrom start⟩
     params := placeParams (start + 1) body.params
     locals := placeLocals firstLocal body.locals
     root }, inner.position + 1)

def Method.place (method : Method Label) (start : Nat) : Method Site × Nat :=
  match method.body with
  | none => ({ method with body := none }, start)
  | some body =>
    let (body, next) := body.place start
    ({ method with body := some body }, next)

def placeMethods : List (Method Label) → Nat → List (Method Site) × Nat
  | [], start => ([], start)
  | method :: rest, start =>
    let (method, middle) := method.place start
    let (rest, next) := placeMethods rest middle
    (method :: rest, next)

/-- Places all bodies one after the other, and gives the first position after them. -/
def Program.place (program : Program Label) : Program Site × Nat :=
  let (methods, next) := placeMethods program.methods 0
  ({ file := program.file, types := program.types, methods }, next)

end RefStability
