import RefStability.Proofs.Acceptance
import RefStability.Proofs.CheckedNodes

/-!
# Positions in 32 bits

A position is a 32-bit number, and placing adds one to it at each end of a node and at each
declaration. Here programs are placed once more with an addition that has no result past the last
position. It takes two positions for a body, one for each of its declarations and two for each of
its nodes. If their sum is a position itself, then every addition has a result, the program is the
one that is placed without a bound, and its bodies lie end to end; otherwise some addition has none.
-/

namespace RefStability

variable {Label : Type}

/-! ### Placing with checked additions -/

/-- The next position, if there is one. -/
def successor? (position : Nat) : Option Nat :=
  if position + 1 ≤ maxPosition then some (position + 1) else none

/-- Placing that stops where an addition has no result. -/
abbrev Placing := StateT Cursor Option

namespace Placing

/-- Takes the current position. -/
def tick : Placing Nat := fun cursor =>
  (successor? cursor.position).map fun next => (cursor.position, { cursor with position := next })

/-- Takes the current position and adds one to it once more, for where a span ends. -/
def tickWith {α : Type} (build : Nat → Nat → α) : Placing α := do
  let position ← tick
  let stop ← successor? position
  return build position stop

/-- The span from `start` to the current position, which is taken. -/
def spanFrom (start : Nat) : Placing Span := tickWith fun _ stop => Span.ofBounds start stop

def closeExpr (start : Nat) : Placing Site := do
  let span ← spanFrom start
  modifyGet fun cursor => (⟨cursor.exprs, span⟩, { cursor with exprs := cursor.exprs + 1 })

def closeStmt (start : Nat) : Placing Site := do
  let span ← spanFrom start
  modifyGet fun cursor => (⟨cursor.stmts, span⟩, { cursor with stmts := cursor.stmts + 1 })

def declare (number : Nat) : Placing Site :=
  tickWith fun position stop => ⟨number, Span.ofBounds position stop⟩

/-- Places declarations that are numbered from `number` on. -/
def declareAll {α β : Type} (build : Site → α → β) : Nat → List α → Placing (List β)
  | _, [] => return []
  | number, declared :: rest => do
    let site ← declare number
    let rest ← declareAll build (number + 1) rest
    return build site declared :: rest

end Placing

mutual

def Expr.placing : Expr Label → Placing (Expr Site)
  | .literal _ => do
    let start ← Placing.tick
    return .literal (← Placing.closeExpr start)
  | .localVar _ target => do
    let start ← Placing.tick
    return .localVar (← Placing.closeExpr start) target
  | .param _ target => do
    let start ← Placing.tick
    return .param (← Placing.closeExpr start) target
  | .staticField _ name ty => do
    let start ← Placing.tick
    return .staticField (← Placing.closeExpr start) name ty
  | .field _ receiver name ty => do
    let start ← Placing.tick
    let receiver ← receiver.placing
    return .field (← Placing.closeExpr start) receiver name ty
  | .index _ receiver operands ty => do
    let start ← Placing.tick
    let receiver ← receiver.placing
    let operands ← Expr.placingList operands
    return .index (← Placing.closeExpr start) receiver operands ty
  | .slice _ receiver operands ty => do
    let start ← Placing.tick
    let receiver ← receiver.placing
    let operands ← Expr.placingList operands
    return .slice (← Placing.closeExpr start) receiver operands ty
  | .scopeValue _ scope ty => do
    let start ← Placing.tick
    let scope ← scope.placing
    return .scopeValue (← Placing.closeExpr start) scope ty
  | .call _ method args ty => do
    let start ← Placing.tick
    let args ← Expr.placingArgs args
    return .call (← Placing.closeExpr start) method args ty
  | .computed _ operands ty => do
    let start ← Placing.tick
    let operands ← Expr.placingList operands
    return .computed (← Placing.closeExpr start) operands ty

def Expr.placingList : List (Expr Label) → Placing (List (Expr Site))
  | [] => return []
  | expr :: rest => do
    let expr ← expr.placing
    let rest ← Expr.placingList rest
    return expr :: rest

def Expr.placingArgs : List (PassMode × Expr Label) → Placing (List (PassMode × Expr Site))
  | [] => return []
  | (mode, expr) :: rest => do
    let expr ← expr.placing
    let rest ← Expr.placingArgs rest
    return (mode, expr) :: rest

end

def Expr.placingOptional : Option (Expr Label) → Placing (Option (Expr Site))
  | none => return none
  | some expr => return some (← expr.placing)

mutual

def Stmt.placing : Stmt Label → Placing (Stmt Site)
  | .declare _ target init => do
    let start ← Placing.tick
    let init ← Expr.placingOptional init
    return .declare (← Placing.closeStmt start) target init
  | .rebind _ target value => do
    let start ← Placing.tick
    let value ← value.placing
    return .rebind (← Placing.closeStmt start) target value
  | .assign _ target value => do
    let start ← Placing.tick
    let target ← target.placing
    let value ← value.placing
    return .assign (← Placing.closeStmt start) target value
  | .eval _ value => do
    let start ← Placing.tick
    let value ← value.placing
    return .eval (← Placing.closeStmt start) value
  | .ret _ value => do
    let start ← Placing.tick
    let value ← Expr.placingOptional value
    return .ret (← Placing.closeStmt start) value
  | .block _ stmts => do
    let start ← Placing.tick
    let stmts ← Stmt.placingList stmts
    return .block (← Placing.closeStmt start) stmts
  | .ifThen _ condition thenBody => do
    let start ← Placing.tick
    let condition ← condition.placing
    let thenBody ← Stmt.placingBlock thenBody
    return .ifThen (← Placing.closeStmt start) condition thenBody
  | .ifElse _ condition thenBody elseBody => do
    let start ← Placing.tick
    let condition ← condition.placing
    let thenBody ← Stmt.placingBlock thenBody
    let elseBody ← Stmt.placingBlock elseBody
    return .ifElse (← Placing.closeStmt start) condition thenBody elseBody
  | .loop _ condition body => do
    let start ← Placing.tick
    let condition ← condition.placing
    let body ← Stmt.placingBlock body
    return .loop (← Placing.closeStmt start) condition body
  | .forEach _ item collection body => do
    let start ← Placing.tick
    let collection ← collection.placing
    let body ← Stmt.placingBlock body
    return .forEach (← Placing.closeStmt start) item collection body

def Stmt.placingBlock : Block Label (Stmt Label) → Placing (Block Site (Stmt Site))
  | ⟨_, stmts⟩ => do
    let start ← Placing.tick
    let stmts ← Stmt.placingList stmts
    return ⟨← Placing.closeStmt start, stmts⟩

def Stmt.placingList : List (Stmt Label) → Placing (List (Stmt Site))
  | [] => return []
  | stmt :: rest => do
    let stmt ← stmt.placing
    let rest ← Stmt.placingList rest
    return stmt :: rest

end

def ParamDecl.placed (label : Site) (param : ParamDecl Label) : ParamDecl Site :=
  { label, name := param.name, ty := param.ty, byRef := param.byRef }

def LocalDecl.placed (label : Site) (declared : LocalDecl Label) : LocalDecl Site :=
  { label, name := declared.name, ty := declared.ty, kind := declared.kind }

def Body.placing (body : Body Label) : Placing (Body Site) := do
  let start ← Placing.tick
  let params ← Placing.declareAll ParamDecl.placed 0 body.params
  let locals ← Placing.declareAll LocalDecl.placed 0 body.locals
  let root ← Stmt.placingBlock body.root
  let span ← Placing.spanFrom start
  return { method := body.method, file := body.file, label := ⟨body.method, span⟩, params, locals,
           root }

/-- Places a body from a position on, with numbers of its own. -/
def Body.place? (body : Body Label) (start : Nat) : Option (Body Site × Nat) :=
  (body.placing.run ⟨start, 0, 1⟩).map fun placed => (placed.1, placed.2.position)

def Method.place? (method : Method Label) (start : Nat) : Option (Method Site × Nat) :=
  match method.body with
  | none => some ({ method with body := none }, start)
  | some body => (body.place? start).map fun placed =>
    ({ method with body := some placed.1 }, placed.2)

def placeMethods? : List (Method Label) → Nat → Option (List (Method Site) × Nat)
  | [], start => some ([], start)
  | method :: rest, start => do
    let (method, middle) ← method.place? start
    (placeMethods? rest middle).map fun placed => (method :: placed.1, placed.2)

/-- Places all bodies one after the other, as long as every addition has a result. -/
def Program.place? (program : Program Label) : Option (Program Site × Nat) :=
  (placeMethods? program.methods 0).map fun placed =>
    ({ file := program.file, types := program.types, methods := placed.1 }, placed.2)

/-! ### Checked and unchecked additions -/

/-- The value, if its position is one. -/
def within {α : Type} (position : α → Nat) (value : α) : Option α :=
  if position value ≤ maxPosition then some value else none

/-- Positions never go down, so that only the last of two steps has to be checked. -/
theorem within_bind {α β : Type} {position : α → Nat} {after : β → Nat} {value : α}
    {next : α → Option β} {result : β} (hle : position value ≤ after result)
    (hnext : position value ≤ maxPosition → next value = within after result) :
    (within position value).bind next = within after result := by
  by_cases hvalue : position value ≤ maxPosition
  · rw [within, if_pos hvalue, Option.bind_some, hnext hvalue]
  · have hresult : ¬after result ≤ maxPosition := by omega
    rw [within, if_neg hvalue, Option.bind_none, within, if_neg hresult]

/-- Checked placing gives what unchecked placing gives, if the position after it is one. -/
structure Placing.Exact {α : Type} (checked : Placing α) (place : Cursor → α × Cursor) : Prop where
  le : ∀ cursor, cursor.position ≤ (place cursor).2.position
  run_eq : ∀ cursor, cursor.position ≤ maxPosition →
    checked.run cursor = within (fun placed => placed.2.position) (place cursor)

namespace Placing.Exact

variable {α β : Type}

theorem congr {checked : Placing α} {place other : Cursor → α × Cursor}
    (hexact : Exact checked place) (heq : ∀ cursor, place cursor = other cursor) :
    Exact checked other := by
  obtain rfl : place = other := funext heq
  exact hexact

theorem pure (value : α) : Exact (pure value) fun cursor => (value, cursor) where
  le _ := Nat.le_refl _
  run_eq cursor hcursor := by
    rw [within, if_pos hcursor]
    rfl

theorem bind {first : Placing α} {next : α → Placing β} {place : Cursor → α × Cursor}
    {placeNext : α → Cursor → β × Cursor} (hfirst : Exact first place)
    (hnext : ∀ value, Exact (next value) (placeNext value)) :
    Exact (first >>= next) fun cursor => placeNext (place cursor).1 (place cursor).2 where
  le cursor := Nat.le_trans (hfirst.le cursor) ((hnext _).le _)
  run_eq cursor hcursor := by
    rw [StateT.run_bind, hfirst.run_eq cursor hcursor]
    exact within_bind ((hnext _).le _) ((hnext _).run_eq _)

theorem tick : Exact tick fun cursor => (cursor.position, cursor.tick) where
  le _ := Nat.le_succ _
  run_eq cursor _ := by
    change (successor? cursor.position).map _ = _
    by_cases hfits : cursor.position + 1 ≤ maxPosition
    · simp only [successor?, within, Cursor.tick_position, hfits, if_true]
      rfl
    · simp only [successor?, within, Cursor.tick_position, hfits, if_false]
      rfl

theorem tickWith (build : Nat → Nat → α) :
    Exact (tickWith build) fun cursor =>
      (build cursor.position (cursor.position + 1), cursor.tick) where
  le _ := Nat.le_succ _
  run_eq cursor hcursor := by
    rw [Placing.tickWith, StateT.run_bind, tick.run_eq cursor hcursor]
    refine within_bind (Nat.le_refl _) fun hfits => ?_
    -- The second addition is the one that the tick has made.
    have hstop : successor? cursor.position = some (cursor.position + 1) := if_pos hfits
    rw [hstop, within, if_pos hfits]
    rfl

theorem modifyGet {update : Cursor → α × Cursor}
    (hupdate : ∀ cursor, (update cursor).2.position = cursor.position) :
    Exact (modifyGet update) update where
  le cursor := Nat.le_of_eq (hupdate cursor).symm
  run_eq cursor hcursor := by
    rw [← hupdate cursor] at hcursor
    rw [within, if_pos hcursor]
    rfl

theorem closeExpr (start : Nat) : Exact (closeExpr start) fun cursor => cursor.closeExpr start :=
  ((tickWith _).bind fun _ => modifyGet fun _ => rfl).congr fun _ => rfl

theorem closeStmt (start : Nat) : Exact (closeStmt start) fun cursor => cursor.closeStmt start :=
  ((tickWith _).bind fun _ => modifyGet fun _ => rfl).congr fun _ => rfl

/-- Declarations take one position each. -/
theorem declareAll (build : Site → α → β) (number : Nat) (values : List α) :
    Exact (declareAll build number values) fun cursor =>
      (values.mapIdx fun index value => build
        ⟨index + number, Span.ofBounds (cursor.position + index) (cursor.position + index + 1)⟩
          value,
        { cursor with position := cursor.position + values.length }) := by
  induction values generalizing number with
  | nil => exact pure []
  | cons value rest ih =>
      refine ((tickWith _).bind fun _ => (ih (number + 1)).bind fun _ => pure _).congr fun cursor =>
        ?_
      simp only [List.mapIdx_cons, Cursor.tick, List.length_cons, Nat.zero_add, Nat.add_zero,
        Nat.add_assoc, Nat.add_comm 1]

end Placing.Exact

section Nodes

open Placing

mutual

theorem Expr.placing_exact : (expr : Expr Label) → Exact expr.placing expr.place
  | .literal _ =>
    (Exact.tick.bind fun start => (Exact.closeExpr start).bind fun _ => .pure _).congr fun _ => rfl
  | .localVar _ _ =>
    (Exact.tick.bind fun start => (Exact.closeExpr start).bind fun _ => .pure _).congr fun _ => rfl
  | .param _ _ =>
    (Exact.tick.bind fun start => (Exact.closeExpr start).bind fun _ => .pure _).congr fun _ => rfl
  | .staticField _ _ _ =>
    (Exact.tick.bind fun start => (Exact.closeExpr start).bind fun _ => .pure _).congr fun _ => rfl
  | .field _ receiver _ _ =>
    (Exact.tick.bind fun start => receiver.placing_exact.bind fun _ =>
      (Exact.closeExpr start).bind fun _ => .pure _).congr fun _ => rfl
  | .index _ receiver operands _ =>
    (Exact.tick.bind fun start => receiver.placing_exact.bind fun _ =>
      (Expr.placingList_exact operands).bind fun _ =>
        (Exact.closeExpr start).bind fun _ => .pure _).congr fun _ => rfl
  | .slice _ receiver operands _ =>
    (Exact.tick.bind fun start => receiver.placing_exact.bind fun _ =>
      (Expr.placingList_exact operands).bind fun _ =>
        (Exact.closeExpr start).bind fun _ => .pure _).congr fun _ => rfl
  | .scopeValue _ scope _ =>
    (Exact.tick.bind fun start => scope.placing_exact.bind fun _ =>
      (Exact.closeExpr start).bind fun _ => .pure _).congr fun _ => rfl
  | .call _ _ args _ =>
    (Exact.tick.bind fun start => (Expr.placingArgs_exact args).bind fun _ =>
      (Exact.closeExpr start).bind fun _ => .pure _).congr fun _ => rfl
  | .computed _ operands _ =>
    (Exact.tick.bind fun start => (Expr.placingList_exact operands).bind fun _ =>
      (Exact.closeExpr start).bind fun _ => .pure _).congr fun _ => rfl

theorem Expr.placingList_exact : (exprs : List (Expr Label)) →
    Exact (Expr.placingList exprs) (Expr.placeList exprs)
  | [] => .pure _
  | expr :: rest =>
    (expr.placing_exact.bind fun _ => (Expr.placingList_exact rest).bind fun _ => .pure _).congr
      fun _ => rfl

theorem Expr.placingArgs_exact : (args : List (PassMode × Expr Label)) →
    Exact (Expr.placingArgs args) (Expr.placeArgs args)
  | [] => .pure _
  | (_, expr) :: rest =>
    (expr.placing_exact.bind fun _ => (Expr.placingArgs_exact rest).bind fun _ => .pure _).congr
      fun _ => rfl

end

theorem Expr.placingOptional_exact (expr : Option (Expr Label)) :
    Exact (Expr.placingOptional expr) (Expr.placeOptional expr) := by
  cases expr with
  | none => exact .pure _
  | some expr => exact (expr.placing_exact.bind fun _ => .pure _).congr fun _ => rfl

mutual

theorem Stmt.placing_exact : (stmt : Stmt Label) → Exact stmt.placing stmt.place
  | .declare _ _ init =>
    (Exact.tick.bind fun start => (Expr.placingOptional_exact init).bind fun _ =>
      (Exact.closeStmt start).bind fun _ => .pure _).congr fun _ => rfl
  | .rebind _ _ value =>
    (Exact.tick.bind fun start => value.placing_exact.bind fun _ =>
      (Exact.closeStmt start).bind fun _ => .pure _).congr fun _ => rfl
  | .assign _ target value =>
    (Exact.tick.bind fun start => target.placing_exact.bind fun _ =>
      value.placing_exact.bind fun _ =>
        (Exact.closeStmt start).bind fun _ => .pure _).congr fun _ => rfl
  | .eval _ value =>
    (Exact.tick.bind fun start => value.placing_exact.bind fun _ =>
      (Exact.closeStmt start).bind fun _ => .pure _).congr fun _ => rfl
  | .ret _ value =>
    (Exact.tick.bind fun start => (Expr.placingOptional_exact value).bind fun _ =>
      (Exact.closeStmt start).bind fun _ => .pure _).congr fun _ => rfl
  | .block _ stmts =>
    (Exact.tick.bind fun start => (Stmt.placingList_exact stmts).bind fun _ =>
      (Exact.closeStmt start).bind fun _ => .pure _).congr fun _ => rfl
  | .ifThen _ condition thenBody =>
    (Exact.tick.bind fun start => condition.placing_exact.bind fun _ =>
      (Stmt.placingBlock_exact thenBody).bind fun _ =>
        (Exact.closeStmt start).bind fun _ => .pure _).congr fun _ => rfl
  | .ifElse _ condition thenBody elseBody =>
    (Exact.tick.bind fun start => condition.placing_exact.bind fun _ =>
      (Stmt.placingBlock_exact thenBody).bind fun _ =>
        (Stmt.placingBlock_exact elseBody).bind fun _ =>
          (Exact.closeStmt start).bind fun _ => .pure _).congr fun _ => rfl
  | .loop _ condition body =>
    (Exact.tick.bind fun start => condition.placing_exact.bind fun _ =>
      (Stmt.placingBlock_exact body).bind fun _ =>
        (Exact.closeStmt start).bind fun _ => .pure _).congr fun _ => rfl
  | .forEach _ _ collection body =>
    (Exact.tick.bind fun start => collection.placing_exact.bind fun _ =>
      (Stmt.placingBlock_exact body).bind fun _ =>
        (Exact.closeStmt start).bind fun _ => .pure _).congr fun _ => rfl

theorem Stmt.placingBlock_exact : (block : Block Label (Stmt Label)) →
    Exact (Stmt.placingBlock block) (Stmt.placeBlock block)
  | ⟨_, stmts⟩ =>
    (Exact.tick.bind fun start => (Stmt.placingList_exact stmts).bind fun _ =>
      (Exact.closeStmt start).bind fun _ => .pure _).congr fun _ => rfl

theorem Stmt.placingList_exact : (stmts : List (Stmt Label)) →
    Exact (Stmt.placingList stmts) (Stmt.placeList stmts)
  | [] => .pure _
  | stmt :: rest =>
    (stmt.placing_exact.bind fun _ => (Stmt.placingList_exact rest).bind fun _ => .pure _).congr
      fun _ => rfl

end

end Nodes

/-! ### Bodies and programs -/

theorem within_map {α β : Type} {position : α → Nat} {after : β → Nat} {build : α → β} {value : α}
    {result : β} (hresult : build value = result) (hafter : position value = after result) :
    (within position value).map build = within after result := by
  rw [within, within, hafter, ← hresult]
  split <;> rfl

/-- Places a body without a bound, and keeps the numbers that are reached. -/
def Body.placeFrom (body : Body Label) (cursor : Cursor) : Body Site × Cursor :=
  let firstLocal := cursor.position + 1 + body.params.length
  let (root, inner) :=
    Stmt.placeBlock body.root { cursor with position := firstLocal + body.locals.length }
  ({ method := body.method, file := body.file
     label := ⟨body.method, inner.spanFrom cursor.position⟩
     params := placeParams (cursor.position + 1) body.params
     locals := placeLocals firstLocal body.locals
     root }, inner.tick)

theorem Body.placing_exact (body : Body Label) : Placing.Exact body.placing body.placeFrom :=
  (Placing.Exact.tick.bind fun start =>
    (Placing.Exact.declareAll ParamDecl.placed 0 body.params).bind fun _ =>
      (Placing.Exact.declareAll LocalDecl.placed 0 body.locals).bind fun _ =>
        (Stmt.placingBlock_exact body.root).bind fun _ =>
          (Placing.Exact.tickWith fun _ stop => Span.ofBounds start stop).bind fun _ =>
            .pure _).congr fun _ => rfl

theorem Body.place?_eq (body : Body Label) {start : Nat} (hstart : start ≤ maxPosition) :
    body.place? start = within Prod.snd (body.place start) := by
  rw [Body.place?, body.placing_exact.run_eq ⟨start, 0, 1⟩ hstart]
  exact within_map rfl rfl

theorem Method.place?_eq (method : Method Label) {start : Nat} (hstart : start ≤ maxPosition) :
    method.place? start = within Prod.snd (method.place start) := by
  unfold Method.place? Method.place
  cases method.body with
  | none => exact (if_pos hstart).symm
  | some body =>
      simp only [body.place?_eq hstart]
      exact within_map rfl rfl

theorem placeMethods?_eq (methods : List (Method Label)) {start : Nat}
    (hstart : start ≤ maxPosition) :
    placeMethods? methods start = within Prod.snd (placeMethods methods start) := by
  induction methods generalizing start with
  | nil => exact (if_pos hstart).symm
  | cons method rest ih =>
      rw [placeMethods?, method.place?_eq hstart]
      refine within_bind (placeMethods_le rest _) fun hmiddle => ?_
      change (placeMethods? rest (method.place start).2).map _ = _
      rw [ih hmiddle]
      exact within_map rfl rfl

theorem Program.place?_eq (program : Program Label) :
    program.place? = within Prod.snd program.place := by
  rw [Program.place?, placeMethods?_eq program.methods (Nat.zero_le _)]
  exact within_map rfl rfl

/-! ### How many positions there are -/

/-- A body takes a position where it starts and one where it ends, one for each declaration, and two
for each statement and each expression. -/
def Body.extent (body : Body Label) : Nat :=
  2 + body.params.length + body.locals.length + 2 * (Stmt.postorderBlock body.root).length +
    2 * body.exprs.length

def Program.extent (program : Program Label) : Nat :=
  (program.bodies.map Body.extent).foldl (· + ·) 0

/-- Spans that follow each other without gaps from one position to another. -/
inductive EndToEnd : Nat → List Span → Nat → Prop
  | nil (position : Nat) : EndToEnd position [] position
  | cons {span : Span} {rest : List Span} {first last : Nat} (hstart : span.start = first)
      (hrest : EndToEnd span.stop rest last) : EndToEnd first (span :: rest) last

theorem Body.positions_eq_extent (body : Body Label) : body.positions = body.extent := by
  have hexprs := body.visited_exprs_perm.length_eq
  have hstmts : (body.nodes.filterMap Node.stmt?).length =
      (Stmt.postorderBlock body.root).length := by
    rw [Body.nodes, Stmt.nodesBlock_eq, Stmt.postorderBlock_eq]
    exact (Node.collect_perm Node.stmts_eq (.stmt body.root.toStmt)).length_eq
  have hkinds := (Node.perm_kinds body.nodes).length_eq
  rw [List.length_append, List.length_map, List.length_map, hexprs, hstmts] at hkinds
  rw [Body.positions, Body.extent, hkinds]
  omega

theorem Body.length_span_place (body : Body Label) (start : Nat) :
    (body.place start).1.label.span.length = body.extent := by
  obtain ⟨hstart, hstop⟩ := body.span_place start
  rw [Span.length, hstart, hstop, body.position_place, body.positions_eq_extent]
  omega

/-- The bodies of placed methods lie end to end, each as long as its extent. -/
theorem placeMethods_endToEnd (methods : List (Method Label)) (start : Nat) :
    EndToEnd start (((placeMethods methods start).1.filterMap (·.body)).map (·.label.span))
      (placeMethods methods start).2 ∧
    ((placeMethods methods start).1.filterMap (·.body)).map (·.label.span.length) =
      (methods.filterMap (·.body)).map Body.extent := by
  induction methods generalizing start with
  | nil => exact ⟨.nil start, rfl⟩
  | cons method rest ih =>
      obtain ⟨hspans, hlengths⟩ := ih (method.place start).2
      simp only [placeMethods, List.filterMap_cons, Method.body_place]
      cases hbody : method.body with
      | none =>
          simp only [Method.place, hbody] at hspans hlengths ⊢
          exact ⟨hspans, hlengths⟩
      | some body =>
          obtain ⟨hstart, hstop⟩ := body.span_place start
          simp only [Method.place, hbody] at hspans hlengths ⊢
          rw [Option.map_some, List.map_cons, List.map_cons, List.map_cons, hlengths,
            body.length_span_place]
          refine ⟨.cons hstart ?_, rfl⟩
          rw [hstop]
          exact hspans

theorem foldl_positions (methods : List (Method Label)) (start : Nat) :
    (methods.map Method.positions).foldl (· + ·) start =
      ((methods.filterMap (·.body)).map Body.extent).foldl (· + ·) start := by
  induction methods generalizing start with
  | nil => rfl
  | cons method rest ih =>
      rw [List.map_cons, List.foldl_cons, ih, List.filterMap_cons, Method.positions]
      cases method.body with
      | none => rfl
      | some body =>
          rw [Option.map_some, Option.getD_some, body.positions_eq_extent, List.map_cons,
            List.foldl_cons]

theorem Program.position_place (program : Program Label) : program.place.2 = program.extent :=
  (placeMethods_position program.methods 0).trans (foldl_positions program.methods 0)

/-- The extent of a body is that of the body it was placed from. -/
theorem Body.extent_place (body : Body Label) (start : Nat) :
    (body.place start).1.extent = body.extent := by
  rw [← positions_eq_extent, ← positions_eq_extent, positions, positions, nodes, nodes]
  simp only [Body.place, placeParams, placeLocals, List.length_mapIdx,
    Stmt.length_nodes_placeBlock]

theorem Document.Program.lower_of_resolve {document : Document.Program}
    {resolved : RefStability.Program Unit} (hresolve : document.resolve = .ok resolved) :
    document.lower = if resolved.extent ≤ maxPosition then .ok resolved.place.1
      else .error .positionsExhausted := by
  rw [← resolved.position_place, lower, hresolve]
  rfl

/-- Let a well-scoped document take two positions for each body, one for each declaration and two
for each statement and each expression. All additions have results if and only if there are that
many positions. Then each body is as long as what it takes, the bodies lie end to end, and the first
free position is the sum; otherwise the document is not lowered. -/
theorem positions_exact {document : Document.Program} (hscoped : document.WellScoped) :
    ∃ resolved, document.resolve = .ok resolved ∧ resolved.extent = document.positions ∧
      ((∃ placed, resolved.place? = some placed) ↔ resolved.extent ≤ maxPosition) ∧
      (resolved.place? = none ↔ document.lower = .error .positionsExhausted) ∧
      (resolved.extent ≤ maxPosition → ∃ program, document.lower = .ok program ∧
        resolved.place? = some (program, resolved.extent) ∧
        program.bodies.map Body.extent = resolved.bodies.map Body.extent ∧
        (∀ body ∈ program.bodies, body.label.span.length = body.extent) ∧
        EndToEnd 0 (program.bodies.map (·.label.span)) resolved.extent) := by
  obtain ⟨resolved, hresolve⟩ := document.exists_resolve_iff.mpr hscoped
  have hpositions : resolved.extent = document.positions := by
    rw [← resolved.position_place, Document.Program.position_of_resolve hresolve]
  have hplace := resolved.place?_eq
  have hlower := Document.Program.lower_of_resolve hresolve
  rw [within, resolved.position_place] at hplace
  refine ⟨resolved, hresolve, hpositions, ?_⟩
  by_cases hfits : resolved.extent ≤ maxPosition
  · rw [if_pos hfits] at hplace hlower
    rw [hplace, hlower]
    refine ⟨iff_of_true ⟨_, rfl⟩ hfits, iff_of_false (by simp) (by simp), fun _ => ?_⟩
    obtain ⟨hspans, hlengths⟩ := placeMethods_endToEnd resolved.methods 0
    have hown : ∀ body ∈ resolved.place.1.bodies, body.label.span.length = body.extent := by
      intro body hbody
      obtain ⟨source, start, rfl, _⟩ := Document.Program.exists_place_of_lower hlower hbody
      rw [source.length_span_place, source.extent_place]
    refine ⟨resolved.place.1, rfl, ?_, ?_, hown, ?_⟩
    · rw [← resolved.position_place]
    · rw [← List.map_congr_left hown]
      exact hlengths
    · rw [← resolved.position_place]
      exact hspans
  · rw [if_neg hfits] at hplace hlower
    rw [hplace, hlower]
    exact ⟨iff_of_false (by simp) hfits, iff_of_true rfl rfl, fun hle => absurd hle hfits⟩

/-- Two bodies that take 28 and 48 positions. -/
theorem positions_exact_branch : ∃ (resolved : Program Unit) (program : Program Site),
    branchDocument.WellScoped ∧ branchDocument.resolve = .ok resolved ∧
      resolved.place? = some (program, 76) ∧ program.bodies.map Body.extent = [28, 48] ∧
      (∀ body ∈ program.bodies, body.label.span.length = body.extent) ∧
      EndToEnd 0 (program.bodies.map (·.label.span)) 76 := by
  have hany : branchDocument.anyBody (fun program _ =>
      program.bodies.map Body.extent == [28, 48]) = true := by
    decide +kernel
  have hpositions : branchDocument.positions = 76 := by decide +kernel
  obtain ⟨program, _, hlower, _, htest⟩ := Document.Program.exists_of_anyBody hany
  obtain ⟨_, hresolve, _⟩ := Document.Program.lower_eq_ok_iff.mp hlower
  have hscoped : branchDocument.WellScoped := branchDocument.exists_resolve_iff.mp ⟨_, hresolve⟩
  obtain ⟨resolved, hresolve, hextent, _, _, hfits⟩ := positions_exact hscoped
  rw [hextent, hpositions] at hfits
  obtain ⟨placed, hplaced, hchecked, _, hown, hspans⟩ := hfits (by decide)
  cases hlower.symm.trans hplaced
  exact ⟨resolved, program, hscoped, hresolve, hchecked, eq_of_beq htest, hown, hspans⟩

end RefStability
