import RefStability.Proofs.ByNumber
import RefStability.Proofs.CheckedNodes
import RefStability.Proofs.LiveResolution

/-!
# The event log is complete

Every local expression of a body gives one event: it is used where it starts or, as an argument that
a callee assigns, bound where it ends. Every statement that binds a local gives one more. The log
holds these events, each once and in the order of their positions, and no others.
-/

namespace RefStability

/-! ### What there is to log -/

/-- The arguments that a call passes `out`. -/
def Expr.outArguments : Expr Site → List (Expr Site)
  | .call _ _ args _ =>
    args.filterMap fun argument => if argument.1 = .out then some argument.2 else none
  | _ => []

namespace Body

/-- Some call of the body passes the expression `out`; expressions are told apart by their
numbers. -/
def passesOut (body : Body Site) (expr : Expr Site) : Bool :=
  body.exprs.any fun call =>
    call.outArguments.any fun argument => argument.label.index == expr.label.index

/-- The one event of a local expression. -/
def localEvent? (body : Body Site) : Expr Site → Option Event
  | .localVar site target =>
    if body.passesOut (.localVar site target) then
      some (.bind { target, producer := .localVar site target, kind := .external
                    span := site.span, position := site.span.stop })
    else some (.use target (.localVar site target))
  | _ => none

end Body

/-- The one event of a statement that binds a local. -/
def Stmt.bindingEvent? : Stmt Site → Option Event
  | .declare site target (some init) =>
    some (.bind { target, producer := init, kind := .ordinary, span := site.span
                  position := site.span.stop })
  | .rebind site target value =>
    some (.bind { target, producer := value, kind := .ordinary, span := site.span
                  position := site.span.stop })
  | .forEach site item collection body =>
    some (.bind { target := item, producer := collection, kind := .loopItem body.label.span
                  span := site.span, position := collection.span.stop })
  | _ => none

def Body.nodeEvent? (body : Body Site) : Node Site → Option Event
  | .expr expr => body.localEvent? expr
  | .stmt stmt => stmt.bindingEvent?

theorem Expr.mem_outArguments_call {site : Site} {id : MethodId}
    {args : List (PassMode × Expr Site)} {ty : TypeId} {argument : Expr Site} :
    argument ∈ (Expr.call site id args ty).outArguments ↔ (.out, argument) ∈ args := by
  simp [outArguments]

/-! ### Nothing is left out -/

namespace Node

/-- All nodes but calls and loops over collections log what their parts log and then their own
events. -/
theorem events_eq_parts (node : Node Site)
    (hcall : ∀ site id args ty, node ≠ .expr (.call site id args ty))
    (hloop : ∀ site item collection body, node ≠ .stmt (.forEach site item collection body)) :
    node.events = node.parts.flatMap events ++ node.ownEvents := by
  cases node with
  | expr expr =>
      cases expr with
      | call site id args ty => exact absurd rfl (hcall site id args ty)
      | _ =>
          simp [events, ownEvents, parts, Expr.parts, Expr.events, Expr.eventsList_eq_flatMap,
            List.flatMap_map]
  | stmt stmt =>
      cases stmt with
      | forEach site item collection body =>
          exact absurd rfl (hloop site item collection body)
      | declare site target init | ret site init =>
          cases init <;> simp [events, ownEvents, parts, Stmt.parts, Stmt.events]
      | _ =>
          simp [events, ownEvents, parts, Stmt.parts, Stmt.events, Stmt.eventsBlock_eq,
            Stmt.eventsList_eq_flatMap, List.flatMap_map]

/-- The node is a call that passes the other one, a local, `out`. -/
def PassesOut (node part : Node Site) : Prop :=
  ∃ call site target, node = .expr call ∧ part = .expr (.localVar site target) ∧
    .localVar site target ∈ call.outArguments

theorem events_of_argument {site : Site} {id : MethodId} {args : List (PassMode × Expr Site)}
    {ty : TypeId} {mode : PassMode} {argument : Expr Site} (hargument : (mode, argument) ∈ args) :
    (∀ event ∈ argument.events, event ∈ (Expr.call site id args ty).events) ∨
      (Node.expr (.call site id args ty)).PassesOut (.expr argument) := by
  by_cases hlocal : mode = .out ∧ ∃ inner target, argument = .localVar inner target
  · obtain ⟨rfl, inner, target, rfl⟩ := hlocal
    exact .inr ⟨_, inner, target, rfl, rfl, Expr.mem_outArguments_call.mpr hargument⟩
  · refine .inl fun event hevent => ?_
    rw [Expr.events, Expr.eventsArgs_eq_flatMap]
    refine List.mem_flatMap.mpr ⟨(mode, argument), hargument, ?_⟩
    unfold argumentEvents
    split
    · rename_i heq
      cases heq
      exact absurd ⟨rfl, _, _, rfl⟩ hlocal
    · rename_i heq
      cases heq
      exact hevent

/-- A part logs into the log of its parent, unless it is passed `out`. -/
theorem events_of_part {node part : Node Site} (hpart : part ∈ node.parts) :
    (∀ event ∈ part.events, event ∈ node.events) ∨ node.PassesOut part := by
  by_cases hcall : ∃ site id args ty, node = .expr (.call site id args ty)
  · obtain ⟨site, id, args, ty, rfl⟩ := hcall
    obtain ⟨expr, hexpr, rfl⟩ := List.mem_map.mp hpart
    obtain ⟨⟨mode, argument⟩, hargument, rfl⟩ := List.mem_map.mp hexpr
    exact events_of_argument hargument
  · by_cases hloop : ∃ site item collection body, node = .stmt (.forEach site item collection body)
    · obtain ⟨site, item, collection, body, rfl⟩ := hloop
      refine .inl fun event hevent => ?_
      simp only [parts, Stmt.parts, List.mem_cons, List.not_mem_nil, or_false] at hpart
      simp only [events, Stmt.events, Stmt.eventsBlock_eq, List.mem_append, List.mem_cons]
      rcases hpart with rfl | rfl
      · exact .inl hevent
      · exact .inr (.inr hevent)
    · refine .inl fun event hevent => ?_
      have heq := node.events_eq_parts
        (fun site id args ty heq => hcall ⟨site, id, args, ty, heq⟩)
        (fun site item collection body heq => hloop ⟨site, item, collection, body, heq⟩)
      rw [heq]
      exact List.mem_append_left _ (List.mem_flatMap.mpr ⟨part, hpart, hevent⟩)

/-- What a node below logs, the node logs too, unless some call passes the former `out`. -/
theorem events_of_mem_nodes {node below : Node Site} (hbelow : below ∈ node.nodes) :
    (∀ event ∈ below.events, event ∈ node.events) ∨
      ∃ call ∈ node.nodes, call.PassesOut below := by
  induction node using Node.induction with
  | step node ih =>
      rw [nodes_eq, List.mem_cons, List.mem_flatMap] at hbelow
      rcases hbelow with rfl | ⟨part, hpart, hbelow⟩
      · exact .inl fun event hevent => hevent
      · have hnodes : ∀ inner ∈ part.nodes, inner ∈ node.nodes := by
          intro inner hinner
          rw [nodes_eq]
          exact List.mem_cons_of_mem _ (List.mem_flatMap.mpr ⟨part, hpart, hinner⟩)
        rcases ih part hpart hbelow with hlogged | ⟨call, hcall, hpassed⟩
        · rcases events_of_part hpart with hevents | hpassed
          · exact .inl fun event hevent => hevents event (hlogged event hevent)
          · -- A local has nothing below it but itself.
            have hself : below = part := by
              obtain ⟨_, site, target, _, rfl, _⟩ := hpassed
              exact List.mem_singleton.mp hbelow
            exact .inr ⟨node, node.mem_nodes_self, hself ▸ hpassed⟩
        · exact .inr ⟨call, hnodes call hcall, hpassed⟩

end Node

namespace Body

variable {body : Body Site}

theorem events_of_mem_nodes {node : Node Site} (hnode : node ∈ body.nodes) :
    (∀ event ∈ node.events, event ∈ body.events) ∨
      ∃ call ∈ body.nodes, call.PassesOut node := by
  rw [Body.nodes, Stmt.nodesBlock_eq] at hnode ⊢
  rw [Body.events, Stmt.eventsBlock_eq]
  exact @Node.events_of_mem_nodes (.stmt body.root.toStmt) node hnode

/-- What a node other than a local logs is in the log of the body. -/
theorem mem_events_of_node {node : Node Site} (hnode : node ∈ body.nodes)
    (hlocal : ∀ site target, node ≠ .expr (.localVar site target)) :
    ∀ event ∈ node.events, event ∈ body.events := by
  rcases events_of_mem_nodes hnode with hevents | ⟨_, _, _, site, target, _, heq, _⟩
  · exact hevents
  · exact absurd heq (hlocal site target)

theorem mem_events_of_bindingEvent? {stmt : Stmt Site} {event : Event}
    (hstmt : Node.stmt stmt ∈ body.nodes) (hevent : stmt.bindingEvent? = some event) :
    event ∈ body.events := by
  refine mem_events_of_node hstmt (by simp) event ?_
  unfold Stmt.bindingEvent? at hevent
  split at hevent
  all_goals cases hevent
  all_goals simp [Node.events, Stmt.events, bindingAt, loopBindingAt]

theorem outBindingAt_mem_events {call : Expr Site} {site : Site} {target : LocalId}
    (hcall : call ∈ body.exprs) (hpassed : .localVar site target ∈ call.outArguments) :
    outBindingAt site target ∈ body.events := by
  cases call with
  | call outer id args ty =>
      refine mem_events_of_node ((body.mem_exprs_iff _).mp hcall) (by simp) _ ?_
      rw [Node.events, Expr.events, Expr.eventsArgs_eq_flatMap]
      refine List.mem_flatMap.mpr ⟨_, Expr.mem_outArguments_call.mp hpassed, ?_⟩
      exact List.mem_singleton_self _
  | _ => cases hpassed

/-- A local is used, unless some call passes it `out`. -/
theorem use_mem_events_or {site : Site} {target : LocalId}
    (hlocal : .localVar site target ∈ body.exprs) :
    Event.use target (.localVar site target) ∈ body.events ∨
      ∃ call ∈ body.exprs, .localVar site target ∈ call.outArguments := by
  rcases events_of_mem_nodes ((body.mem_exprs_iff _).mp hlocal) with
    hevents | ⟨_, hnode, call, inner, bound, rfl, heq, hpassed⟩
  · exact .inl (hevents _ (List.mem_singleton_self _))
  · injection heq with heq
    exact .inr ⟨call, (body.mem_exprs_iff _).mpr hnode, heq ▸ hpassed⟩

end Body

/-! ### Nothing is logged twice -/

namespace Body.IsLaid

variable {body : Body Site} (hlaid : body.IsLaid)
include hlaid

theorem events_nodup : body.events.Nodup := by
  refine hlaid.events_inOrder.1.imp_of_mem ?_
  rintro earlier later hearlier _ hle rfl
  have hlt := (hlaid.events_inOrder.2 earlier hearlier).2.1
  omega

/-- A local is not both used and passed `out`: both events take up the position where it starts. -/
theorem use_notMem_of_out {site : Site} {target : LocalId}
    (hout : outBindingAt site target ∈ body.events) :
    Event.use target (.localVar site target) ∉ body.events := by
  intro huse
  have hlt := (hlaid.events_inOrder.2 _ hout).2.1
  change site.span.start < site.span.stop at hlt
  obtain ⟨i, hi⟩ := List.mem_iff_getElem?.mp huse
  obtain ⟨j, hj⟩ := List.mem_iff_getElem?.mp hout
  rcases Nat.lt_trichotomy i j with hearlier | rfl | hlater
  · have hle := hlaid.extent_stop_le hearlier hi hj
    change site.span.start + 1 ≤ site.span.start at hle
    omega
  · rw [hi] at hj
    cases hj
  · have hle := hlaid.extent_stop_le hlater hj hi
    change site.span.stop ≤ site.span.start at hle
    omega

theorem events_position_le :
    body.events.Pairwise fun earlier later => earlier.position ≤ later.position := by
  have hextent : ∀ event ∈ body.events,
      event.extent.start ≤ event.position ∧ event.position ≤ event.extent.stop := by
    intro event hevent
    have hlt := (hlaid.events_inOrder.2 event hevent).2.1
    cases event with
    | use target expr => exact ⟨Nat.le_refl _, Nat.le_succ _⟩
    | bind binding =>
        rw [(body.events_from _ hevent).extent_stop] at hlt ⊢
        exact ⟨Nat.le_of_lt hlt, Nat.le_refl _⟩
  refine hlaid.events_inOrder.1.imp_of_mem ?_
  intro earlier later hearlier hlater hle
  calc earlier.position ≤ earlier.extent.stop := (hextent earlier hearlier).2
    _ ≤ later.extent.start := hle
    _ ≤ later.position := (hextent later hlater).1

end Body.IsLaid

/-- Where the node is that gives an event. -/
def Event.origin : Event → Span
  | .use _ expr => expr.span
  | .bind binding => binding.span

theorem Body.origin_of_nodeEvent? {body : Body Site} {node : Node Site} {event : Event}
    (hevent : body.nodeEvent? node = some event) : event.origin = node.span := by
  cases node with
  | expr expr =>
      cases expr with
      | localVar site target =>
          rw [nodeEvent?, localEvent?] at hevent
          split at hevent
          · cases hevent
            rfl
          · cases hevent
            rfl
      | _ => cases hevent
  | stmt stmt =>
      change stmt.bindingEvent? = some event at hevent
      unfold Stmt.bindingEvent? at hevent
      split at hevent
      all_goals cases hevent
      all_goals rfl

theorem Body.IsLaid.nodeEvents_nodup {body : Body Site} (hlaid : body.IsLaid) :
    (body.nodes.filterMap body.nodeEvent?).Nodup := by
  refine List.pairwise_filterMap.mpr (hlaid.nodes_start_lt.imp ?_)
  rintro earlier later hlt first hfirst second hsecond rfl
  rw [← Body.origin_of_nodeEvent? hfirst, ← Body.origin_of_nodeEvent? hsecond] at hlt
  exact Nat.lt_irrefl _ hlt

/-! ### The log is what there is to log -/

theorem Expr.outArguments_subset_parts {call argument : Expr Site}
    (hpassed : argument ∈ call.outArguments) : argument ∈ call.parts := by
  cases call with
  | call site id args ty => exact List.mem_map_of_mem (mem_outArguments_call.mp hpassed)
  | _ => cases hpassed

theorem Body.InSourceOrder.passesOut_iff {body : Body Site} (horder : body.InSourceOrder)
    {expr : Expr Site} (hexpr : expr ∈ body.exprs) :
    body.passesOut expr = true ↔ ∃ call ∈ body.exprs, expr ∈ call.outArguments := by
  simp only [passesOut, List.any_eq_true, beq_iff_eq]
  refine exists_congr fun call => and_congr_right fun hcall => ?_
  constructor
  · rintro ⟨argument, hpassed, hindex⟩
    have hargument := IsLaid.part_mem_exprs hcall (Expr.outArguments_subset_parts hpassed)
    have hfound := getElem?_of_numbered horder.exprs_numbered hexpr
    rw [← hindex, getElem?_of_numbered horder.exprs_numbered hargument] at hfound
    cases hfound
    exact hpassed
  · intro hpassed
    exact ⟨expr, hpassed, rfl⟩

theorem Body.mem_events_iff {body : Body Site} (hlaid : body.IsLaid)
    (horder : body.InSourceOrder) (event : Event) :
    event ∈ body.events ↔ event ∈ body.nodes.filterMap body.nodeEvent? := by
  have hlocal : ∀ site target, Node.expr (.localVar site target) ∈ body.nodes →
      (body.passesOut (.localVar site target) = true →
        outBindingAt site target ∈ body.events) ∧
      (body.passesOut (.localVar site target) = false →
        Event.use target (.localVar site target) ∈ body.events) := by
    intro site target hnode
    have hexpr := (body.mem_exprs_iff _).mpr hnode
    constructor
    · intro hpasses
      obtain ⟨call, hcall, hpassed⟩ := (horder.passesOut_iff hexpr).mp hpasses
      exact outBindingAt_mem_events hcall hpassed
    · intro hpasses
      refine (use_mem_events_or hexpr).resolve_right fun hpassed => ?_
      rw [(horder.passesOut_iff hexpr).mpr hpassed] at hpasses
      cases hpasses
  rw [List.mem_filterMap]
  constructor
  · intro hevent
    cases body.events_from event hevent with
    | @use site target hnode =>
        refine ⟨_, hnode, ?_⟩
        cases hpasses : body.passesOut (.localVar site target) with
        | true => exact absurd hevent (hlaid.use_notMem_of_out ((hlocal _ _ hnode).1 hpasses))
        | false => simp [nodeEvent?, localEvent?, hpasses]
    | @out site target hnode =>
        refine ⟨_, hnode, ?_⟩
        cases hpasses : body.passesOut (.localVar site target) with
        | true => simp [nodeEvent?, localEvent?, hpasses, outBindingAt]
        | false => exact absurd ((hlocal _ _ hnode).2 hpasses) (hlaid.use_notMem_of_out hevent)
    | declare hnode => exact ⟨_, hnode, rfl⟩
    | rebind hnode => exact ⟨_, hnode, rfl⟩
    | item hnode => exact ⟨_, hnode, rfl⟩
  · rintro ⟨node, hnode, hevent⟩
    cases node with
    | stmt stmt => exact mem_events_of_bindingEvent? hnode hevent
    | expr expr =>
        cases expr with
        | localVar site target =>
            rw [nodeEvent?, localEvent?] at hevent
            split at hevent
            · rename_i hpasses
              cases hevent
              exact (hlocal _ _ hnode).1 hpasses
            · rename_i hpasses
              cases hevent
              exact (hlocal _ _ hnode).2 (Bool.eq_false_iff.mpr hpasses)
        | _ => cases hevent

theorem Body.events_perm {body : Body Site} (hlaid : body.IsLaid) (horder : body.InSourceOrder) :
    body.events.Perm
      (body.exprs.filterMap body.localEvent? ++ body.stmts.filterMap Stmt.bindingEvent?) := by
  have hnodes : body.events.Perm (body.nodes.filterMap body.nodeEvent?) :=
    (List.perm_ext_iff_of_nodup hlaid.events_nodup hlaid.nodeEvents_nodup).mpr
      (body.mem_events_iff hlaid horder)
  have hnumbered := body.nodes_perm.filterMap body.nodeEvent?
  rw [List.filterMap_append, List.filterMap_map, List.filterMap_map] at hnumbered
  exact hnodes.trans hnumbered

theorem Body.map_bind_bindingsOf (body : Body Site) (target : LocalId) :
    (body.bindingsOf target).map .bind =
      body.events.filter fun event => event.binding?.any (·.target == target) := by
  rw [bindingsOf]
  induction body.events with
  | nil => rfl
  | cons event rest ih =>
      cases event with
      | use used expr => exact ih
      | bind binding =>
          by_cases htarget : binding.target = target
          · simp [Event.binding?, htarget, ih]
          · simp [Event.binding?, htarget, ih]

/-- What the log of a body holds, and in which order. -/
structure Body.LogsExactly (body : Body Site) : Prop where
  positions_le : body.events.Pairwise fun earlier later => earlier.position ≤ later.position
  bindings_lt : (body.events.filterMap Event.binding?).Pairwise fun earlier later =>
    earlier.position < later.position
  events : body.events.Perm
    (body.exprs.filterMap body.localEvent? ++ body.stmts.filterMap Stmt.bindingEvent?)
  numbers : (body.exprs.map fun expr => expr.label.index).Nodup ∧
    (body.stmts.map fun stmt => stmt.label.index).Nodup
  out : ∀ expr ∈ body.exprs, (body.passesOut expr = true ↔
    ∃ call ∈ body.exprs, expr ∈ call.outArguments)
  bindings : ∀ target, bindingsBy? body.events target = some (body.bindingsOf target) ∧
    (body.bindingsOf target).map .bind =
      body.events.filter fun event => event.binding?.any (·.target == target)

/-- The log of a lowered body holds one event for each local expression and for each statement that
binds a local, and nothing else. It is in the order of positions, and no two bindings come to hold
at one position. -/
theorem log_complete {document : Document.Program} {program : Program Site}
    (hlower : document.lower = .ok program) {body : Body Site} (hbody : body ∈ program.bodies) :
    body.LogsExactly := by
  have hlaid := Document.Program.lower_laid hlower hbody
  have horder : body.InSourceOrder := by
    obtain ⟨source, start, rfl, hlast⟩ := Document.Program.exists_place_of_lower hlower hbody
    exact source.place_inSourceOrder start hlast
  exact {
    positions_le := hlaid.events_position_le
    bindings_lt := hlaid.bindings_position_lt
    events := Body.events_perm hlaid horder
    numbers := by
      rw [horder.exprs_numbered, horder.stmts_numbered]
      exact ⟨List.nodup_range, List.nodup_range⟩
    out := fun _ hexpr => horder.passesOut_iff hexpr
    bindings := fun target => ⟨bindingsBy?_events body target, body.map_bind_bindingsOf target⟩ }

/-- The log of the last body: a loop item, a reference assignment and an argument that a callee
assigns are bound at 37, 60 and 72, and the four uses are of other expressions. -/
theorem log_complete_branch : ∃ (program : Program Site) (body : Body Site),
    branchDocument.lower = .ok program ∧ body ∈ program.bodies ∧
      body.events.map Event.position = [35, 37, 44, 54, 60, 62, 72] ∧
      (body.events.filterMap Event.binding?).map (·.position) = [37, 60, 72] ∧
      body.LogsExactly := by
  have hany : branchDocument.anyBody (fun _ body =>
      body.events.map Event.position == [35, 37, 44, 54, 60, 62, 72] &&
        (body.events.filterMap Event.binding?).map (·.position) == [37, 60, 72]) = true := by
    decide +kernel
  obtain ⟨program, body, hlower, hbody, htest⟩ := Document.Program.exists_of_anyBody hany
  obtain ⟨hpositions, hbindings⟩ := Bool.and_eq_true_iff.mp htest
  exact ⟨program, body, hlower, hbody, eq_of_beq hpositions, eq_of_beq hbindings,
    log_complete hlower hbody⟩

end RefStability
