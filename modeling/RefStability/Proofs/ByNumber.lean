import RefStability.Proofs.InRange
import RefStability.Proofs.EventLog

/-!
# Going through a body by number

Here a body is gone through as it is stored: each node is looked up by its number, and a look-up
that finds nothing ends the whole walk without a result. In a body in source order every look-up
finds its node, so that the walk and the log of events are what the tree gives.
-/

namespace RefStability

theorem mapM_eq_some_map {α β : Type} {read : α → Option β} {value : α → β} {items : List α}
    (hread : ∀ item ∈ items, read item = some (value item)) :
    items.mapM read = some (items.map value) := by
  induction items with
  | nil => rfl
  | cons item rest ih =>
      have hrest := ih fun later hlater => hread later (List.mem_cons_of_mem _ hlater)
      rw [List.mapM_cons, hread item List.mem_cons_self, hrest]
      rfl

/-! ### Depth -/

/-- No walk by number goes deeper. -/
def Body.nesting (body : Body Site) : Nat := body.exprs.length + body.stmts.length

/-- How deep a walk from the node may go: expressions come after all statements. -/
def Body.depth (body : Body Site) : Node Site → Nat
  | .expr expr => expr.label.index + 1
  | .stmt stmt => body.exprs.length + stmt.label.index + 1

namespace Body.InSourceOrder

variable {body : Body Site} (horder : body.InSourceOrder)
include horder

theorem depth_part_lt {node part : Node Site} (hnode : node ∈ body.nodes)
    (hpart : part ∈ node.parts) : body.depth part < body.depth node := by
  cases node with
  | expr expr =>
      obtain ⟨inner, hinner, rfl⟩ := List.mem_map.mp hpart
      have hlt := horder.expr_after_parts expr ((body.mem_exprs_iff expr).mpr hnode) inner hpart
      simp only [depth]
      omega
  | stmt stmt =>
      cases part with
      | expr inner =>
          have hinner := horder.getElem?_exprs (Body.mem_nodes_of_part hnode hpart)
          obtain ⟨hlt, _⟩ := List.getElem?_eq_some_iff.mp hinner
          simp only [depth]
          omega
      | stmt inner =>
          have hmem := (body.mem_stmts_iff stmt).mpr (.inr hnode)
          have hlt := horder.stmt_after_parts stmt hmem inner hpart
          simp only [depth]
          omega

theorem depth_root_le : body.depth (.stmt body.root.toStmt) ≤ body.nesting := by
  have hroot := horder.getElem?_stmts body.root_mem_nodes
  obtain ⟨hlt, _⟩ := List.getElem?_eq_some_iff.mp hroot
  simp only [depth, nesting]
  omega

end Body.InSourceOrder

/-! ### The walk -/

namespace Body

variable (body : Body Site)

/-- Visits a node and then all below it, looked up by their numbers. -/
def visit? : Nat → NodeId → Option (List (Node Site))
  | 0, _ => none
  | depth + 1, id => do
    let node ← body.node? id
    let below ← node.parts.mapM fun part => visit? depth part.id
    return node :: below.flatten

theorem InSourceOrder.visit?_eq {body : Body Site} (horder : body.InSourceOrder) {depth : Nat}
    {node : Node Site} (hnode : node ∈ body.nodes) (hdepth : body.depth node ≤ depth) :
    body.visit? depth node.id = some node.nodes := by
  -- The parts of a node are less deep than the node.
  induction depth generalizing node with
  | zero => cases node <;> simp [Body.depth] at hdepth
  | succ depth ih =>
      have hparts : node.parts.mapM (fun part => body.visit? depth part.id) =
          some (node.parts.map Node.nodes) := by
        apply mapM_eq_some_map
        intro part hpart
        have hlt := horder.depth_part_lt hnode hpart
        exact ih (Body.mem_nodes_of_part hnode hpart) (by omega)
      rw [visit?, horder.node?_id hnode, Node.nodes_eq, List.flatMap_def]
      simp only [Option.bind_eq_bind, Option.bind_some, hparts, Option.pure_def]

theorem InSourceOrder.visit?_root {body : Body Site} (horder : body.InSourceOrder) :
    body.visit? body.nesting (Node.stmt body.root.toStmt).id = some body.nodes := by
  rw [horder.visit?_eq body.root_mem_nodes horder.depth_root_le, Body.nodes, Stmt.nodesBlock_eq]
  rfl

/-! ### The log -/

/-- What an argument adds to the log, when `log` says what an expression adds. -/
def argumentLog? (log : Expr Site → Option (List Event)) (argument : PassMode × Expr Site) :
    Option (List Event) := do
  let stored ← body.exprs[argument.2.label.index]?
  match argument.1, stored with
  | .out, .localVar site target => return [outBindingAt site target]
  | _, _ => log argument.2

/-- The events of a node and of all below it, looked up by their numbers. -/
def log? : Nat → NodeId → Option (List Event)
  | 0, _ => none
  | depth + 1, id => do
    match ← body.node? id with
    | .stmt (.declare site target (some init)) =>
      return (← log? depth (Node.expr init).id) ++ [bindingAt site target init]
    | .stmt (.rebind site target value) =>
      return (← log? depth (Node.expr value).id) ++ [bindingAt site target value]
    | .stmt (.forEach site target collection loop) =>
      let before ← log? depth (Node.expr collection).id
      let block ← body.stmts[loop.label.index]?
      let stored ← body.exprs[collection.label.index]?
      let inside ← log? depth (Node.stmt loop.toStmt).id
      return before ++ loopBindingAt site target stored block.label :: inside
    | .expr (.localVar site target) => return [.use target (.localVar site target)]
    | .expr (.call _ _ args _) =>
      return (← args.mapM (body.argumentLog? fun expr => log? depth (Node.expr expr).id)).flatten
    | node => return (← node.parts.mapM fun part => log? depth part.id).flatten

/-- The log of a body, from the number of its root on. -/
def events? : Option (List Event) := body.log? body.nesting (Node.stmt body.root.toStmt).id

end Body

/-- What an argument adds to the log. -/
def argumentEvents : PassMode × Expr Site → List Event
  | (.out, .localVar site target) => [outBindingAt site target]
  | (_, expr) => expr.events

theorem Expr.eventsArgs_eq_flatMap (args : List (PassMode × Expr Site)) :
    Expr.eventsArgs args = args.flatMap argumentEvents := by
  induction args with
  | nil => rfl
  | cons argument rest ih =>
      obtain ⟨mode, expr⟩ := argument
      rw [List.flatMap_cons, ← ih]
      cases mode <;> cases expr <;> rfl

namespace Body.InSourceOrder

variable {body : Body Site} (horder : body.InSourceOrder)
include horder

theorem argumentLog?_eq {log : Expr Site → Option (List Event)} {argument : PassMode × Expr Site}
    (hexpr : Node.expr argument.2 ∈ body.nodes)
    (hlog : log argument.2 = some argument.2.events) :
    body.argumentLog? log argument = some (argumentEvents argument) := by
  obtain ⟨mode, expr⟩ := argument
  rw [argumentLog?, horder.getElem?_exprs hexpr]
  cases mode <;> cases expr <;> first | exact hlog | rfl

section Step

variable {depth : Nat}

theorem log?_expr {expr : Expr Site} (hnode : Node.expr expr ∈ body.nodes)
    (hpart : ∀ part ∈ (Node.expr expr).parts, body.log? depth part.id = some part.events) :
    body.log? (depth + 1) (Node.expr expr).id = some (Node.expr expr).events := by
  have hparts := mapM_eq_some_map hpart
  rw [log?, horder.node?_id hnode]
  cases expr with
  | localVar site target => rfl
  | call site id args ty =>
      have hargs : args.mapM (body.argumentLog? fun expr =>
          body.log? depth (Node.expr expr).id) = some (args.map argumentEvents) := by
        apply mapM_eq_some_map
        intro argument hargument
        have hmem : Node.expr argument.2 ∈ (Node.expr (.call site id args ty)).parts :=
          List.mem_map_of_mem (List.mem_map_of_mem hargument)
        exact horder.argumentLog?_eq (Body.mem_nodes_of_part hnode hmem) (hpart _ hmem)
      simp only [Option.bind_eq_bind, Option.bind_some, hargs, Option.pure_def]
      rw [Node.events, Expr.events, Expr.eventsArgs_eq_flatMap, List.flatMap_def]
  | _ =>
      simp only [Option.bind_eq_bind, Option.bind_some, hparts, Option.pure_def]
      simp [Node.events, Node.parts, Expr.parts, Expr.events, Expr.eventsList_eq_flatMap,
        List.flatMap_def, Function.comp_def]

theorem log?_stmt {stmt : Stmt Site} (hnode : Node.stmt stmt ∈ body.nodes)
    (hpart : ∀ part ∈ (Node.stmt stmt).parts, body.log? depth part.id = some part.events) :
    body.log? (depth + 1) (Node.stmt stmt).id = some (Node.stmt stmt).events := by
  have hparts := mapM_eq_some_map hpart
  rw [log?, horder.node?_id hnode]
  cases stmt with
  | declare site target init =>
      cases init with
      | none => rfl
      | some init =>
          have hinit := hpart (.expr init) (List.mem_singleton_self _)
          simp only [Option.bind_eq_bind, Option.bind_some, hinit, Option.pure_def]
          rfl
  | rebind site target value =>
      have hvalue := hpart (.expr value) (List.mem_singleton_self _)
      simp only [Option.bind_eq_bind, Option.bind_some, hvalue, Option.pure_def]
      rfl
  | forEach site target collection loop =>
      have hmem : Node.expr collection ∈ (Node.stmt (.forEach site target collection loop)).parts :=
        List.mem_cons_self
      have hloop : Node.stmt loop.toStmt ∈
          (Node.stmt (.forEach site target collection loop)).parts :=
        List.mem_cons_of_mem _ (List.mem_singleton_self _)
      have hblock := horder.getElem?_stmts (Body.mem_nodes_of_part hnode hloop)
      have hstored := horder.getElem?_exprs (Body.mem_nodes_of_part hnode hmem)
      change body.stmts[loop.label.index]? = _ at hblock
      simp only [Option.bind_eq_bind, Option.bind_some, hpart _ hmem, hpart _ hloop, hblock,
        hstored, Option.pure_def]
      have hlog : (Stmt.forEach site target collection loop).events = collection.events ++
          loopBindingAt site target collection loop.label :: loop.toStmt.events := by
        rw [← Stmt.eventsBlock_eq]
        rfl
      exact congrArg some hlog.symm
  | ret site value =>
      simp only [Option.bind_eq_bind, Option.bind_some, hparts, Option.pure_def]
      cases value with
      | none => rfl
      | some value =>
          have hlog : (Stmt.ret site (some value)).events = value.events := rfl
          simp [Node.events, hlog, Node.parts, Stmt.parts]
  | _ =>
      simp only [Option.bind_eq_bind, Option.bind_some, hparts, Option.pure_def]
      simp [Node.events, Node.parts, Stmt.parts, Stmt.events, Stmt.eventsBlock_eq,
        Stmt.eventsList_eq_flatMap, List.flatMap_def, Function.comp_def]

end Step

theorem log?_eq {depth : Nat} {node : Node Site} (hnode : node ∈ body.nodes)
    (hdepth : body.depth node ≤ depth) : body.log? depth node.id = some node.events := by
  induction depth generalizing node with
  | zero => cases node <;> simp [Body.depth] at hdepth
  | succ depth ih =>
      have hpart : ∀ part ∈ node.parts, body.log? depth part.id = some part.events := by
        intro part hpart
        have hlt := horder.depth_part_lt hnode hpart
        exact ih (Body.mem_nodes_of_part hnode hpart) (by omega)
      cases node with
      | expr expr => exact horder.log?_expr hnode hpart
      | stmt stmt => exact horder.log?_stmt hnode hpart

theorem events?_eq : body.events? = some body.events := by
  rw [events?, horder.log?_eq body.root_mem_nodes horder.depth_root_le, Body.events,
    Stmt.eventsBlock_eq]
  rfl

end Body.InSourceOrder

/-! ### Bindings -/

/-- The numbers in the log of the events that bind a local. -/
def bindingNumbers (events : List Event) (target : LocalId) : List Nat :=
  (events.zipIdx.filter fun entry => entry.1.binding?.any (·.target == target)).map (·.2)

/-- The bindings of a local, looked up in the log by their numbers. -/
def bindingsBy? (events : List Event) (target : LocalId) : Option (List Binding) := do
  let found ← (bindingNumbers events target).mapM (events[·]?)
  return found.filterMap Event.binding?

theorem filterMap_binding?_filter (events : List Event) (target : LocalId) :
    (events.filter fun event => event.binding?.any (·.target == target)).filterMap Event.binding? =
      (events.filterMap Event.binding?).filter (·.target == target) := by
  rw [List.filterMap_filter, List.filter_filterMap]
  apply congrArg (List.filterMap · events)
  funext event
  cases event with
  | bind binding => rfl
  | use target expr => rfl

theorem bindingsBy?_events (body : Body Site) (target : LocalId) :
    bindingsBy? body.events target = some (body.bindingsOf target) := by
  let binds : Event → Bool := fun event => event.binding?.any (·.target == target)
  let entries := body.events.zipIdx.filter fun entry => binds entry.1
  have hentries : entries.map Prod.fst = body.events.filter binds := by
    calc entries.map Prod.fst = (body.events.zipIdx.map Prod.fst).filter binds := by
          rw [List.filter_map]
          rfl
      _ = body.events.filter binds := by rw [List.zipIdx_map_fst]
  have hfound : (bindingNumbers body.events target).mapM (body.events[·]?) =
      some (entries.map Prod.fst) := by
    rw [bindingNumbers, List.mapM_map]
    apply mapM_eq_some_map
    intro entry hentry
    exact List.mem_zipIdx_iff_getElem?.mp (List.mem_filter.mp hentry).1
  rw [bindingsBy?, hfound, hentries, Option.bind_eq_bind, Option.bind_some,
    filterMap_binding?_filter]
  rfl

namespace Body

/-- The binding that an expression sees, which is looked up by its number. -/
def resolveBy? (body : Body Site) (events : List Event) (number : Nat) :
    Option (Option Binding) := do
  match ← body.exprs[number]? with
  | .localVar site target =>
    let bindings ← bindingsBy? events target
    return bindings.reverse.find? fun binding => binding.position ≤ site.span.start
  | _ => return none

theorem resolveBy?_eq {body : Body Site} {number : Nat} {expr : Expr Site}
    (hexpr : body.exprs[number]? = some expr) :
    body.resolveBy? body.events number = some (body.resolve? expr) := by
  rw [resolveBy?, hexpr]
  cases expr with
  | localVar site target =>
      simp only [Option.bind_eq_bind, Option.bind_some, bindingsBy?_events]
      rfl
  | _ => rfl

end Body

end RefStability
