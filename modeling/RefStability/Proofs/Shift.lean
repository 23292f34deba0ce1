import RefStability.Finding.Check
import RefStability.Proofs.Layout

/-!
# Shifted bodies

A body that is placed later has the same nodes with the same numbers; only its spans lie further on,
all by the same distance. What is read off a body (its nodes, its events, the binding that a name
stands for, the bindings that are live at a position) is shifted along with it.
-/

namespace RefStability

variable {Label : Type}

section Definitions

variable (distance : Nat)

def Span.shift (span : Span) : Span where
  start := span.start + distance
  stop := span.stop + distance
  start_le_stop := Nat.add_le_add_right span.start_le_stop distance

def Site.shift (site : Site) : Site := { site with span := site.span.shift distance }

def Location.shift (location : Location) : Location :=
  { location with span := location.span.shift distance }

mutual

def Expr.shift : Expr Site → Expr Site
  | .literal site => .literal (site.shift distance)
  | .localVar site target => .localVar (site.shift distance) target
  | .param site target => .param (site.shift distance) target
  | .staticField site name ty => .staticField (site.shift distance) name ty
  | .field site receiver name ty => .field (site.shift distance) receiver.shift name ty
  | .index site receiver operands ty =>
    .index (site.shift distance) receiver.shift (Expr.shiftList operands) ty
  | .slice site receiver operands ty =>
    .slice (site.shift distance) receiver.shift (Expr.shiftList operands) ty
  | .scopeValue site scope ty => .scopeValue (site.shift distance) scope.shift ty
  | .call site method args ty => .call (site.shift distance) method (Expr.shiftArgs args) ty
  | .computed site operands ty => .computed (site.shift distance) (Expr.shiftList operands) ty

def Expr.shiftList : List (Expr Site) → List (Expr Site)
  | [] => []
  | expr :: rest => expr.shift :: Expr.shiftList rest

def Expr.shiftArgs : List (PassMode × Expr Site) → List (PassMode × Expr Site)
  | [] => []
  | (mode, expr) :: rest => (mode, expr.shift) :: Expr.shiftArgs rest

end

mutual

def Stmt.shift : Stmt Site → Stmt Site
  | .declare site target init =>
    .declare (site.shift distance) target (init.map (Expr.shift distance))
  | .rebind site target value => .rebind (site.shift distance) target (value.shift distance)
  | .assign site target value =>
    .assign (site.shift distance) (target.shift distance) (value.shift distance)
  | .eval site value => .eval (site.shift distance) (value.shift distance)
  | .ret site value => .ret (site.shift distance) (value.map (Expr.shift distance))
  | .block site stmts => .block (site.shift distance) (Stmt.shiftList stmts)
  | .ifThen site condition thenBody =>
    .ifThen (site.shift distance) (condition.shift distance) (Stmt.shiftBlock thenBody)
  | .ifElse site condition thenBody elseBody =>
    .ifElse (site.shift distance) (condition.shift distance) (Stmt.shiftBlock thenBody)
      (Stmt.shiftBlock elseBody)
  | .loop site condition body =>
    .loop (site.shift distance) (condition.shift distance) (Stmt.shiftBlock body)
  | .forEach site item collection body =>
    .forEach (site.shift distance) item (collection.shift distance) (Stmt.shiftBlock body)

def Stmt.shiftBlock : Block Site (Stmt Site) → Block Site (Stmt Site)
  | ⟨site, stmts⟩ => ⟨site.shift distance, Stmt.shiftList stmts⟩

def Stmt.shiftList : List (Stmt Site) → List (Stmt Site)
  | [] => []
  | stmt :: rest => stmt.shift :: Stmt.shiftList rest

end

def Node.shift : Node Site → Node Site
  | .stmt value => .stmt (value.shift distance)
  | .expr value => .expr (value.shift distance)

def ParamDecl.shift (declared : ParamDecl Site) : ParamDecl Site :=
  { declared with label := declared.label.shift distance }

def LocalDecl.shift (declared : LocalDecl Site) : LocalDecl Site :=
  { declared with label := declared.label.shift distance }

def Body.shift (body : Body Site) : Body Site where
  method := body.method
  file := body.file
  label := body.label.shift distance
  params := body.params.map (ParamDecl.shift distance)
  locals := body.locals.map (LocalDecl.shift distance)
  root := Stmt.shiftBlock distance body.root

def BindingKind.shift : BindingKind → BindingKind
  | .ordinary => .ordinary
  | .loopItem body => .loopItem (body.shift distance)
  | .external => .external

def Binding.shift (binding : Binding) : Binding where
  target := binding.target
  producer := binding.producer.shift distance
  kind := binding.kind.shift distance
  span := binding.span.shift distance
  position := binding.position + distance

def Event.shift : Event → Event
  | .bind binding => .bind (binding.shift distance)
  | .use target expr => .use target (expr.shift distance)

def Window.shift (window : Window) : Window where
  start := window.start + distance
  stop := window.stop + distance
  start_le_stop := Nat.add_le_add_right window.start_le_stop distance

def Tracked.shift (tracked : Tracked) : Tracked where
  binding := tracked.binding.shift distance
  window := tracked.window.shift distance

def Scan.shift (scan : Scan) : Scan where
  tracked := scan.tracked.map (Tracked.shift distance)
  found := scan.found.map (Tracked.shift distance)

end Definitions

variable {distance : Nat}

theorem Span.ofBounds_shift (start stop : Nat) :
    Span.ofBounds (start + distance) (stop + distance) =
      (Span.ofBounds start stop).shift distance :=
  Span.ext rfl (Nat.add_max_add_right start stop distance)

theorem Expr.shiftList_eq_map (exprs : List (Expr Site)) :
    Expr.shiftList distance exprs = exprs.map (Expr.shift distance) := by
  induction exprs with
  | nil => rfl
  | cons expr rest ih => rw [shiftList, ih, List.map_cons]

theorem Expr.shiftArgs_eq_map (args : List (PassMode × Expr Site)) :
    Expr.shiftArgs distance args = args.map (Prod.map id (Expr.shift distance)) := by
  induction args with
  | nil => rfl
  | cons argument rest ih => rw [shiftArgs, ih, List.map_cons, Prod.map, id]

theorem Stmt.shiftList_eq_map (stmts : List (Stmt Site)) :
    Stmt.shiftList distance stmts = stmts.map (Stmt.shift distance) := by
  induction stmts with
  | nil => rfl
  | cons stmt rest ih => rw [shiftList, ih, List.map_cons]

@[simp]
theorem Expr.label_shift (expr : Expr Site) :
    (expr.shift distance).label = expr.label.shift distance := by
  cases expr <;> simp only [shift, label]

@[simp]
theorem Expr.span_shift (expr : Expr Site) :
    (expr.shift distance).span = expr.span.shift distance := by
  rw [span, label_shift]
  rfl

@[simp]
theorem Stmt.span_shift (stmt : Stmt Site) :
    (stmt.shift distance).span = stmt.span.shift distance := by
  cases stmt <;> simp only [shift, span, label] <;> rfl

/-! ### Placing -/

def Cursor.shift (distance : Nat) (cursor : Cursor) : Cursor :=
  { cursor with position := cursor.position + distance }

namespace Cursor

theorem tick_shift (cursor : Cursor) :
    (cursor.shift distance).tick = cursor.tick.shift distance := by
  simp only [tick, shift, Nat.add_right_comm]

theorem spanFrom_shift (cursor : Cursor) (start : Nat) :
    (cursor.shift distance).spanFrom (start + distance) =
      (cursor.spanFrom start).shift distance := by
  rw [spanFrom, spanFrom, ← Span.ofBounds_shift, shift, Nat.add_right_comm]

theorem closeExpr_shift (cursor : Cursor) (start : Nat) :
    (cursor.shift distance).closeExpr (start + distance) =
      ((cursor.closeExpr start).1.shift distance, (cursor.closeExpr start).2.shift distance) := by
  simp only [closeExpr, spanFrom_shift, tick_shift]
  rfl

theorem closeStmt_shift (cursor : Cursor) (start : Nat) :
    (cursor.shift distance).closeStmt (start + distance) =
      ((cursor.closeStmt start).1.shift distance, (cursor.closeStmt start).2.shift distance) := by
  simp only [closeStmt, spanFrom_shift, tick_shift]
  rfl

@[simp]
theorem position_shift (cursor : Cursor) :
    (cursor.shift distance).position = cursor.position + distance := rfl

end Cursor

open Cursor in
mutual

theorem Expr.place_shift : (expr : Expr Label) → (cursor : Cursor) →
    expr.place (cursor.shift distance) =
      ((expr.place cursor).1.shift distance, (expr.place cursor).2.shift distance)
  | .literal _, cursor => by
      simp only [place, tick_shift, position_shift, closeExpr_shift, shift]
  | .localVar _ _, cursor => by
      simp only [place, tick_shift, position_shift, closeExpr_shift, shift]
  | .param _ _, cursor => by
      simp only [place, tick_shift, position_shift, closeExpr_shift, shift]
  | .staticField _ _ _, cursor => by
      simp only [place, tick_shift, position_shift, closeExpr_shift, shift]
  | .field _ receiver _ _, cursor => by
      simp only [place, tick_shift, position_shift, closeExpr_shift, shift, receiver.place_shift]
  | .index _ receiver operands _, cursor => by
      simp only [place, tick_shift, position_shift, closeExpr_shift, shift, receiver.place_shift,
        Expr.placeList_shift operands]
  | .slice _ receiver operands _, cursor => by
      simp only [place, tick_shift, position_shift, closeExpr_shift, shift, receiver.place_shift,
        Expr.placeList_shift operands]
  | .scopeValue _ scope _, cursor => by
      simp only [place, tick_shift, position_shift, closeExpr_shift, shift, scope.place_shift]
  | .call _ _ args _, cursor => by
      simp only [place, tick_shift, position_shift, closeExpr_shift, shift,
        Expr.placeArgs_shift args]
  | .computed _ operands _, cursor => by
      simp only [place, tick_shift, position_shift, closeExpr_shift, shift,
        Expr.placeList_shift operands]

theorem Expr.placeList_shift : (exprs : List (Expr Label)) → (cursor : Cursor) →
    Expr.placeList exprs (cursor.shift distance) =
      (Expr.shiftList distance (Expr.placeList exprs cursor).1,
        (Expr.placeList exprs cursor).2.shift distance)
  | [], _ => rfl
  | expr :: rest, cursor => by
      simp only [placeList, shiftList, expr.place_shift, Expr.placeList_shift rest]

theorem Expr.placeArgs_shift : (args : List (PassMode × Expr Label)) → (cursor : Cursor) →
    Expr.placeArgs args (cursor.shift distance) =
      (Expr.shiftArgs distance (Expr.placeArgs args cursor).1,
        (Expr.placeArgs args cursor).2.shift distance)
  | [], _ => rfl
  | (_, expr) :: rest, cursor => by
      simp only [placeArgs, shiftArgs, expr.place_shift, Expr.placeArgs_shift rest]

end

theorem Expr.placeOptional_shift (expr : Option (Expr Label)) (cursor : Cursor) :
    Expr.placeOptional expr (cursor.shift distance) =
      ((Expr.placeOptional expr cursor).1.map (Expr.shift distance),
        (Expr.placeOptional expr cursor).2.shift distance) := by
  cases expr with
  | none => rfl
  | some expr => simp only [placeOptional, expr.place_shift, Option.map_some]

open Cursor in
mutual

theorem Stmt.place_shift : (stmt : Stmt Label) → (cursor : Cursor) →
    stmt.place (cursor.shift distance) =
      ((stmt.place cursor).1.shift distance, (stmt.place cursor).2.shift distance)
  | .declare _ _ init, cursor => by
      simp only [place, tick_shift, position_shift, closeStmt_shift, shift,
        Expr.placeOptional_shift]
  | .rebind _ _ value, cursor => by
      simp only [place, tick_shift, position_shift, closeStmt_shift, shift, Expr.place_shift]
  | .assign _ target value, cursor => by
      simp only [place, tick_shift, position_shift, closeStmt_shift, shift, Expr.place_shift]
  | .eval _ value, cursor => by
      simp only [place, tick_shift, position_shift, closeStmt_shift, shift, Expr.place_shift]
  | .ret _ value, cursor => by
      simp only [place, tick_shift, position_shift, closeStmt_shift, shift,
        Expr.placeOptional_shift]
  | .block _ stmts, cursor => by
      simp only [place, tick_shift, position_shift, closeStmt_shift, shift,
        Stmt.placeList_shift stmts]
  | .ifThen _ condition thenBody, cursor => by
      simp only [place, tick_shift, position_shift, closeStmt_shift, shift, Expr.place_shift,
        Stmt.placeBlock_shift thenBody]
  | .ifElse _ condition thenBody elseBody, cursor => by
      simp only [place, tick_shift, position_shift, closeStmt_shift, shift, Expr.place_shift,
        Stmt.placeBlock_shift thenBody, Stmt.placeBlock_shift elseBody]
  | .loop _ condition body, cursor => by
      simp only [place, tick_shift, position_shift, closeStmt_shift, shift, Expr.place_shift,
        Stmt.placeBlock_shift body]
  | .forEach _ _ collection body, cursor => by
      simp only [place, tick_shift, position_shift, closeStmt_shift, shift, Expr.place_shift,
        Stmt.placeBlock_shift body]

theorem Stmt.placeBlock_shift : (block : Block Label (Stmt Label)) → (cursor : Cursor) →
    Stmt.placeBlock block (cursor.shift distance) =
      (Stmt.shiftBlock distance (Stmt.placeBlock block cursor).1,
        (Stmt.placeBlock block cursor).2.shift distance)
  | ⟨_, stmts⟩, cursor => by
      simp only [placeBlock, tick_shift, position_shift, closeStmt_shift, shiftBlock,
        Stmt.placeList_shift stmts]

theorem Stmt.placeList_shift : (stmts : List (Stmt Label)) → (cursor : Cursor) →
    Stmt.placeList stmts (cursor.shift distance) =
      (Stmt.shiftList distance (Stmt.placeList stmts cursor).1,
        (Stmt.placeList stmts cursor).2.shift distance)
  | [], _ => rfl
  | stmt :: rest, cursor => by
      simp only [placeList, shiftList, stmt.place_shift, Stmt.placeList_shift rest]

end

theorem declarationSite_shift (first number : Nat) :
    declarationSite (first + distance) number = (declarationSite first number).shift distance := by
  have hstart : first + distance + number = first + number + distance := by omega
  have hstop : first + distance + number + 1 = first + number + 1 + distance := by omega
  rw [declarationSite, hstop, hstart, Span.ofBounds_shift]
  rfl

theorem placeParams_shift (first : Nat) (params : List (ParamDecl Label)) :
    placeParams (first + distance) params =
      (placeParams first params).map (ParamDecl.shift distance) := by
  apply List.ext_getElem?
  intro number
  simp only [placeParams, declarationSite_shift, List.getElem?_mapIdx, List.getElem?_map,
    Option.map_map]
  rfl

theorem placeLocals_shift (first : Nat) (locals : List (LocalDecl Label)) :
    placeLocals (first + distance) locals =
      (placeLocals first locals).map (LocalDecl.shift distance) := by
  apply List.ext_getElem?
  intro number
  simp only [placeLocals, declarationSite_shift, List.getElem?_mapIdx, List.getElem?_map,
    Option.map_map]
  rfl

/-- A body that is placed later is the same one, shifted. -/
theorem Body.place_shift (body : Body Label) (start : Nat) :
    (body.place (start + distance)).1 = (body.place start).1.shift distance := by
  have hparams : start + distance + 1 = start + 1 + distance := by omega
  have hlocals : start + 1 + distance + body.params.length =
      start + 1 + body.params.length + distance := by omega
  have hroot : start + 1 + body.params.length + distance + body.locals.length =
      start + 1 + body.params.length + body.locals.length + distance := by omega
  have hblock : Stmt.placeBlock body.root
      ⟨start + 1 + body.params.length + body.locals.length + distance, 0, 1⟩ = _ :=
    Stmt.placeBlock_shift body.root ⟨start + 1 + body.params.length + body.locals.length, 0, 1⟩
  simp only [place, hparams, hlocals, hroot, hblock, placeParams_shift, placeLocals_shift,
    Cursor.spanFrom_shift]
  rfl

/-! ### Nodes -/

theorem Block.toStmt_shift (block : Block Site (Stmt Site)) :
    (Stmt.shiftBlock distance block).toStmt = block.toStmt.shift distance := by
  rw [toStmt, toStmt, Stmt.shift, Stmt.shiftBlock]

theorem Node.parts_shift (node : Node Site) :
    (node.shift distance).parts = node.parts.map (Node.shift distance) := by
  cases node with
  | expr expr =>
      cases expr <;>
        simp [shift, parts, Expr.shift, Expr.parts, Expr.shiftList_eq_map, Expr.shiftArgs_eq_map]
  | stmt stmt =>
      cases stmt with
      | declare site target init | ret site init =>
          cases init <;> simp [shift, parts, Stmt.shift, Stmt.parts]
      | _ =>
          simp [shift, parts, Stmt.shift, Stmt.parts, Stmt.shiftList_eq_map, Block.toStmt_shift]

theorem Node.nodes_shift (node : Node Site) :
    (node.shift distance).nodes = node.nodes.map (Node.shift distance) := by
  induction node using Node.induction with
  | step node ih =>
      rw [nodes_eq, nodes_eq node, parts_shift, List.map_cons, List.map_flatMap, List.flatMap_map]
      exact congrArg _ (List.flatMap_congr ih)

theorem Body.nodes_shift (body : Body Site) :
    (body.shift distance).nodes = body.nodes.map (Node.shift distance) := by
  rw [nodes, nodes, Stmt.nodesBlock_eq, Stmt.nodesBlock_eq, shift, Block.toStmt_shift]
  exact Node.nodes_shift (.stmt body.root.toStmt)

/-! ### Events -/

mutual

theorem Expr.events_shift : (expr : Expr Site) →
    (expr.shift distance).events = expr.events.map (Event.shift distance)
  | .literal _ => rfl
  | .localVar _ _ => rfl
  | .param _ _ => rfl
  | .staticField _ _ _ => rfl
  | .field _ receiver _ _ => receiver.events_shift
  | .index _ receiver operands _ => by
      simp only [shift, events, List.map_append, receiver.events_shift,
        Expr.eventsList_shift operands]
  | .slice _ receiver operands _ => by
      simp only [shift, events, List.map_append, receiver.events_shift,
        Expr.eventsList_shift operands]
  | .scopeValue _ scope _ => scope.events_shift
  | .call _ _ args _ => Expr.eventsArgs_shift args
  | .computed _ operands _ => Expr.eventsList_shift operands

theorem Expr.eventsList_shift : (exprs : List (Expr Site)) →
    Expr.eventsList (Expr.shiftList distance exprs) =
      (Expr.eventsList exprs).map (Event.shift distance)
  | [] => rfl
  | expr :: rest => by
      simp only [shiftList, eventsList, List.map_append, expr.events_shift,
        Expr.eventsList_shift rest]

theorem Expr.eventsArgs_shift : (args : List (PassMode × Expr Site)) →
    Expr.eventsArgs (Expr.shiftArgs distance args) =
      (Expr.eventsArgs args).map (Event.shift distance)
  | [] => rfl
  | (mode, expr) :: rest => by
      have hexpr := expr.events_shift
      have hrest := Expr.eventsArgs_shift rest
      -- A local that is passed `out` logs a binding and not a use.
      cases mode with
      | value | ref => simp only [shiftArgs, eventsArgs, List.map_append, hexpr, hrest]
      | out =>
          cases expr with
          | localVar site target =>
              simp only [shiftArgs, shift, eventsArgs, List.map_cons, hrest]
              rfl
          | _ =>
              simp only [shiftArgs, shift, eventsArgs, List.map_append, hrest] at hexpr ⊢
              rw [hexpr]

end

theorem bindingAt_shift (site : Site) (target : LocalId) (producer : Expr Site) :
    bindingAt (site.shift distance) target (producer.shift distance) =
      (bindingAt site target producer).shift distance := rfl

theorem loopBindingAt_shift (site : Site) (item : LocalId) (collection : Expr Site) (body : Site) :
    loopBindingAt (site.shift distance) item (collection.shift distance) (body.shift distance) =
      (loopBindingAt site item collection body).shift distance := by
  simp only [loopBindingAt, Expr.span_shift, Event.shift, Binding.shift, BindingKind.shift]
  rfl

mutual

theorem Stmt.events_shift : (stmt : Stmt Site) →
    (stmt.shift distance).events = stmt.events.map (Event.shift distance)
  | .declare _ _ none => rfl
  | .declare _ _ (some init) => by
      simp only [shift, events, Option.map_some, List.map_append, init.events_shift,
        bindingAt_shift, List.map_cons, List.map_nil]
  | .rebind _ _ value => by
      simp only [shift, events, List.map_append, value.events_shift, bindingAt_shift,
        List.map_cons, List.map_nil]
  | .assign _ target value => by
      simp only [shift, events, List.map_append, target.events_shift, value.events_shift]
  | .eval _ value => value.events_shift
  | .ret _ none => rfl
  | .ret _ (some value) => value.events_shift
  | .block _ stmts => Stmt.eventsList_shift stmts
  | .ifThen _ condition thenBody => by
      simp only [shift, events, List.map_append, condition.events_shift,
        Stmt.eventsBlock_shift thenBody]
  | .ifElse _ condition thenBody elseBody => by
      simp only [shift, events, List.map_append, condition.events_shift,
        Stmt.eventsBlock_shift thenBody, Stmt.eventsBlock_shift elseBody]
  | .loop _ condition body => by
      simp only [shift, events, List.map_append, condition.events_shift,
        Stmt.eventsBlock_shift body]
  | .forEach _ _ collection body => by
      have hlabel : (Stmt.shiftBlock distance body).label = body.label.shift distance := by
        rw [shiftBlock]
      simp only [shift, events, List.map_append, List.map_cons, collection.events_shift,
        Stmt.eventsBlock_shift body, hlabel, loopBindingAt_shift]

theorem Stmt.eventsBlock_shift : (block : Block Site (Stmt Site)) →
    Stmt.eventsBlock (Stmt.shiftBlock distance block) =
      (Stmt.eventsBlock block).map (Event.shift distance)
  | ⟨_, stmts⟩ => Stmt.eventsList_shift stmts

theorem Stmt.eventsList_shift : (stmts : List (Stmt Site)) →
    Stmt.eventsList (Stmt.shiftList distance stmts) =
      (Stmt.eventsList stmts).map (Event.shift distance)
  | [] => rfl
  | stmt :: rest => by
      simp only [shiftList, eventsList, List.map_append, stmt.events_shift,
        Stmt.eventsList_shift rest]

end

theorem Body.events_shift (body : Body Site) :
    (body.shift distance).events = body.events.map (Event.shift distance) :=
  Stmt.eventsBlock_shift body.root

/-! ### Resolving names -/

theorem Event.target_shift (event : Event) : (event.shift distance).target = event.target := by
  cases event <;> rfl

theorem Event.binding?_shift (event : Event) :
    (event.shift distance).binding? = event.binding?.map (Binding.shift distance) := by
  cases event <;> rfl

theorem Body.bindingsOf_shift (body : Body Site) (target : LocalId) :
    (body.shift distance).bindingsOf target =
      (body.bindingsOf target).map (Binding.shift distance) := by
  have hbindings : (body.events.map (Event.shift distance)).filterMap Event.binding? =
      (body.events.filterMap Event.binding?).map (Binding.shift distance) := by
    rw [List.filterMap_map, List.map_filterMap]
    exact List.filterMap_congr fun event _ => event.binding?_shift
  rw [bindingsOf, bindingsOf, events_shift, hbindings, List.filter_map]
  rfl

theorem Body.resolveAt?_shift (body : Body Site) (target : LocalId) (position : Nat) :
    (body.shift distance).resolveAt? target (position + distance) =
      (body.resolveAt? target position).map (Binding.shift distance) := by
  rw [resolveAt?, resolveAt?, bindingsOf_shift, ← List.map_reverse, List.find?_map]
  congr 2
  funext binding
  simp [Binding.shift]

theorem Body.resolve?_shift (body : Body Site) (expr : Expr Site) :
    (body.shift distance).resolve? (expr.shift distance) =
      (body.resolve? expr).map (Binding.shift distance) := by
  cases expr with
  | localVar site target => exact body.resolveAt?_shift target site.span.start
  | _ => rfl

theorem Body.isRefLocal_shift (body : Body Site) (target : LocalId) :
    (body.shift distance).isRefLocal target = body.isRefLocal target := by
  rw [isRefLocal, isRefLocal, shift, List.getElem?_map, Option.any_map]
  rfl

/-! ### Windows -/

namespace Window

theorem straddles_shift (window : Window) (position : Nat) :
    (window.shift distance).straddles (position + distance) = window.straddles position := by
  simp [straddles, shift]

theorem covering_shift (start stop : Nat) :
    covering (start + distance) (stop + distance) = (covering start stop).shift distance :=
  Window.ext rfl (Nat.add_max_add_right start stop distance)

theorem closeAt_shift (window : Window) (position : Nat) :
    (window.shift distance).closeAt (position + distance) =
      (window.closeAt position).shift distance :=
  covering_shift window.start position

/-- Below the largest position no window is cut off. -/
theorem extendTo_shift (window : Window) {position : Nat}
    (hlt : position + distance < maxPosition) :
    (window.shift distance).extendTo (position + distance) =
      (window.extendTo position).shift distance := by
  refine Window.ext rfl ?_
  simp only [extendTo, shift]
  omega

end Window

namespace Tracked

theorem straddles_shift (tracked : Tracked) (position : Nat) :
    (tracked.shift distance).window.straddles (position + distance) =
      tracked.window.straddles position :=
  tracked.window.straddles_shift position

theorem isLoopItem_shift (binding : Binding) :
    (binding.shift distance).isLoopItem = binding.isLoopItem := by
  unfold Binding.isLoopItem Binding.shift BindingKind.shift
  cases binding.kind <;> rfl

theorem ofBinding_shift (binding : Binding) :
    ofBinding (binding.shift distance) = (ofBinding binding).shift distance := by
  unfold ofBinding shift Binding.shift BindingKind.shift
  cases binding.kind with
  | ordinary | external => rfl
  | loopItem body =>
      simp only
      rw [← Window.covering_shift]
      rfl

theorem replacedBy_shift (tracked : Tracked) (binding : Binding) :
    (tracked.shift distance).replacedBy (binding.shift distance) =
      (tracked.replacedBy binding).shift distance := by
  have hproducer : (binding.shift distance).producer.span.start =
      binding.producer.span.start + distance := by
    rw [Binding.shift, Expr.span_shift]
    rfl
  unfold replacedBy
  rw [hproducer]
  simp only [shift, isLoopItem_shift, Window.closeAt_shift]
  split <;> rfl

end Tracked

/-! ### Scans -/

namespace Scan

variable (scan : Scan)

theorem tracked?_shift (target : LocalId) :
    (scan.shift distance).tracked? target =
      (scan.tracked? target).map (Tracked.shift distance) := by
  rw [tracked?, shift, List.find?_map]
  rfl

theorem forget_shift (target : LocalId) :
    (scan.shift distance).forget target =
      (scan.forget target).map (Tracked.shift distance) := by
  rw [forget, shift, List.filter_map]
  rfl

theorem bind_shift (position : Nat) (binding : Binding) :
    (scan.shift distance).bind (position + distance) (binding.shift distance) =
      (scan.bind position binding).shift distance := by
  have htarget : (binding.shift distance).target = binding.target := rfl
  unfold bind
  rw [htarget, forget_shift, tracked?_shift, Tracked.ofBinding_shift]
  cases scan.tracked? binding.target with
  | none => simp [shift]
  | some old =>
      simp only [Option.map_some, Tracked.replacedBy_shift, Tracked.straddles_shift]
      split <;> simp [shift]

theorem use_shift (position : Nat) (target : LocalId) {usedAt : Nat}
    (hlt : usedAt + distance < maxPosition) :
    (scan.shift distance).use (position + distance) target (usedAt + distance) =
      (scan.use position target usedAt).shift distance := by
  unfold use
  rw [tracked?_shift, forget_shift]
  cases scan.tracked? target with
  | none => rfl
  | some tracked =>
      simp only [Option.map_some, Tracked.shift, Tracked.isLoopItem_shift,
        Window.extendTo_shift _ hlt, Window.straddles_shift]
      split
      · rfl
      · split
        · simp [shift, Tracked.shift]
        · simp only [shift, List.map_map]
          congr 1
          refine List.map_congr_left fun other _ => ?_
          rw [Function.comp_apply, Function.comp_apply, apply_ite (Tracked.shift distance)]
          rfl

theorem step_shift (position : Nat) {event : Event}
    (hlt : ∀ target expr, event = .use target expr → expr.span.start + distance < maxPosition) :
    (scan.shift distance).step (position + distance) (event.shift distance) =
      (scan.step position event).shift distance := by
  cases event with
  | bind binding => exact scan.bind_shift position binding
  | use target expr =>
      have hstart : (expr.shift distance).span.start = expr.span.start + distance := by
        rw [Expr.span_shift]
        rfl
      rw [Event.shift, step, hstart]
      exact scan.use_shift position target (hlt target expr rfl)

theorem foldl_shift (position : Nat) {events : List Event}
    (hlt : ∀ target expr, .use target expr ∈ events → expr.span.start + distance < maxPosition) :
    (events.map (Event.shift distance)).foldl (step (position + distance)) (scan.shift distance) =
      (events.foldl (step position) scan).shift distance := by
  induction events generalizing scan with
  | nil => rfl
  | cons event rest ih =>
      rw [List.map_cons, List.foldl_cons, List.foldl_cons, scan.step_shift position
        fun target expr hevent => hlt target expr (hevent ▸ List.mem_cons_self)]
      exact ih _ fun target expr hmem => hlt target expr (List.mem_cons_of_mem _ hmem)

theorem finish_shift (position : Nat) :
    (scan.shift distance).finish (position + distance) =
      (scan.finish position).map (Tracked.shift distance) := by
  have hfilter : (scan.tracked.map (Tracked.shift distance)).filter
      (fun tracked => tracked.window.straddles (position + distance)) =
      (scan.tracked.filter fun tracked => tracked.window.straddles position).map
        (Tracked.shift distance) := by
    rw [List.filter_map]
    refine congrArg _ (List.filter_congr fun tracked _ => tracked.straddles_shift position)
  rw [finish, finish, List.map_append, ← hfilter]
  rfl

end Scan

theorem Body.tracksAt_shift (body : Body Site) (position : Nat)
    (hlt : ∀ target expr, .use target expr ∈ body.events →
      expr.span.start + distance < maxPosition) :
    (body.shift distance).tracksAt (position + distance) =
      (body.tracksAt position).map (Tracked.shift distance) := by
  have hevents : (body.events.map (Event.shift distance)).filter
      (fun event => (body.shift distance).isRefLocal event.target) =
      (body.events.filter fun event => body.isRefLocal event.target).map
        (Event.shift distance) := by
    rw [List.filter_map]
    refine congrArg _ (List.filter_congr fun event _ => ?_)
    rw [Function.comp_apply, Event.target_shift, isRefLocal_shift]
  unfold tracksAt
  rw [events_shift, hevents, ← Scan.finish_shift, ← Scan.foldl_shift]
  · rfl
  · intro target expr hmem
    exact hlt target expr (List.mem_filter.mp hmem).1

end RefStability
