import RefStability.Binding.Event
import RefStability.Proofs.Layout

/-!
# The order of the event log

Every event takes up some positions: a use the one where it starts, a binding the one before it
holds, and an argument that a callee assigns all of its own. In the log of a laid body these extents
follow each other without overlap. So the binding that holds at a position is the one that was
logged last before it, which is what replaying the log gives.
-/

namespace RefStability

def outBindingAt (site : Site) (target : LocalId) : Event :=
  .bind { target, producer := .localVar site target, kind := .external, span := site.span,
          position := site.span.stop }

/-! ### Events by parts -/

namespace Node

def events : Node Site → List Event
  | .stmt value => value.events
  | .expr value => value.events

/-- The events of a node that do not come from its parts; they follow those that do. -/
def ownEvents : Node Site → List Event
  | .stmt (.declare site target (some init)) => [bindingAt site target init]
  | .stmt (.rebind site target value) => [bindingAt site target value]
  | .expr (.localVar site target) => [.use target (.localVar site target)]
  | _ => []

/-- What a part adds to the log of its parent. -/
inductive Logs (parent : Node Site) : Node Site → List Event → Prop
  | own (part : Node Site) : Logs parent part part.events
  | out (site : Site) (target : LocalId) :
      Logs parent (.expr (.localVar site target)) [outBindingAt site target]
  | item {site : Site} {target : LocalId} {collection : Expr Site} {body : Block Site (Stmt Site)}
      (hparent : parent = .stmt (.forEach site target collection body)) :
      Logs parent (.expr collection)
        (collection.events ++ [loopBindingAt site target collection body.label])

/-- The log of a node is what its parts add, in their order, and then its own events. -/
def Composed (node : Node Site) (events : List Event) : Prop :=
  ∃ entries : List (Node Site × List Event),
    entries.map Prod.fst = node.parts ∧
      (∀ entry ∈ entries, node.Logs entry.1 entry.2) ∧
      events = entries.flatMap Prod.snd

end Node

theorem Expr.eventsList_eq_flatMap (exprs : List (Expr Site)) :
    Expr.eventsList exprs = exprs.flatMap Expr.events := by
  induction exprs with
  | nil => rfl
  | cons expr rest ih => rw [eventsList, ih, List.flatMap_cons]

theorem Stmt.eventsBlock_eq (block : Block Site (Stmt Site)) :
    Stmt.eventsBlock block = block.toStmt.events := by
  rw [eventsBlock, Block.toStmt, events]

theorem Stmt.eventsList_eq_flatMap (stmts : List (Stmt Site)) :
    Stmt.eventsList stmts = stmts.flatMap Stmt.events := by
  induction stmts with
  | nil => rfl
  | cons stmt rest ih => rw [eventsList, ih, List.flatMap_cons]

namespace Node

theorem composed_parts (node : Node Site) : node.Composed (node.parts.flatMap events) := by
  refine ⟨node.parts.map fun part => (part, part.events), ?_, ?_, ?_⟩
  · rw [List.map_map]
    exact List.map_id _
  · intro entry hentry
    obtain ⟨part, _, rfl⟩ := List.mem_map.mp hentry
    exact .own part
  · rw [List.flatMap_map]

theorem composed_args (site : Site) (method : MethodId) (args : List (PassMode × Expr Site))
    (ty : TypeId) : (Node.expr (.call site method args ty)).Composed (Expr.eventsArgs args) := by
  -- The call only serves as the parent here: no argument is the collection of a loop.
  generalize hparent : Node.expr (.call site method args ty) = parent
  suffices hentries : ∃ entries : List (Node Site × List Event),
      entries.map Prod.fst = (args.map Prod.snd).map .expr ∧
        (∀ entry ∈ entries, parent.Logs entry.1 entry.2) ∧
        Expr.eventsArgs args = entries.flatMap Prod.snd by
    subst hparent
    exact hentries
  clear hparent
  induction args with
  | nil => exact ⟨[], rfl, by simp, rfl⟩
  | cons argument rest ih =>
      obtain ⟨entries, hparts, hlogs, hevents⟩ := ih
      unfold Expr.eventsArgs
      split
      · rename_i heq
        cases heq
      · rename_i outSite target others heq
        injection heq with hargument hothers
        subst hargument hothers
        refine ⟨(.expr (.localVar outSite target), [outBindingAt outSite target]) :: entries,
          ?_, ?_, ?_⟩
        · simp [hparts]
        · intro entry hentry
          rcases List.mem_cons.mp hentry with rfl | hentry
          · exact .out outSite target
          · exact hlogs entry hentry
        · simp [hevents, outBindingAt]
      · rename_i mode expr others _ heq
        injection heq with hargument hothers
        subst hargument hothers
        refine ⟨(.expr expr, expr.events) :: entries, ?_, ?_, ?_⟩
        · simp [hparts]
        · intro entry hentry
          rcases List.mem_cons.mp hentry with rfl | hentry
          · exact .own (.expr expr)
          · exact hlogs entry hentry
        · simp [hevents]

theorem composed_forEach (site : Site) (target : LocalId) (collection : Expr Site)
    (body : Block Site (Stmt Site)) :
    (Node.stmt (.forEach site target collection body)).Composed
      (Stmt.forEach site target collection body).events := by
  refine ⟨[(.expr collection,
      collection.events ++ [loopBindingAt site target collection body.label]),
    (.stmt body.toStmt, body.toStmt.events)], rfl, ?_, ?_⟩
  · intro entry hentry
    simp only [List.mem_cons, List.not_mem_nil, or_false] at hentry
    rcases hentry with rfl | rfl
    · exact .item rfl
    · exact .own (.stmt body.toStmt)
  · simp [Stmt.events, Stmt.eventsBlock_eq]

theorem events_eq (node : Node Site) :
    ∃ inner, node.Composed inner ∧ node.events = inner ++ node.ownEvents := by
  cases node with
  | expr expr =>
      cases expr with
      | call site method args ty =>
          refine ⟨_, composed_args site method args ty, ?_⟩
          simp [events, ownEvents, Expr.events]
      | _ =>
          refine ⟨_, composed_parts _, ?_⟩
          simp [events, ownEvents, parts, Expr.parts, Expr.events, Expr.eventsList_eq_flatMap,
            List.flatMap_map]
  | stmt stmt =>
      cases stmt with
      | forEach site target collection body =>
          refine ⟨_, composed_forEach site target collection body, ?_⟩
          simp [events, ownEvents]
      | declare site target init | ret site init =>
          refine ⟨_, composed_parts _, ?_⟩
          cases init <;> simp [events, ownEvents, parts, Stmt.parts, Stmt.events]
      | _ =>
          refine ⟨_, composed_parts _, ?_⟩
          simp [events, ownEvents, parts, Stmt.parts, Stmt.events, Stmt.eventsBlock_eq,
            Stmt.eventsList_eq_flatMap, List.flatMap_map]

end Node

/-! ### Where events come from -/

/-- The node that logs an event is among the given ones. -/
inductive Event.From (nodes : List (Node Site)) : Event → Prop
  | use {site : Site} {target : LocalId} (hnode : Node.expr (.localVar site target) ∈ nodes) :
      From nodes (.use target (.localVar site target))
  | out {site : Site} {target : LocalId} (hnode : Node.expr (.localVar site target) ∈ nodes) :
      From nodes (outBindingAt site target)
  | declare {site : Site} {target : LocalId} {init : Expr Site}
      (hnode : Node.stmt (.declare site target (some init)) ∈ nodes) :
      From nodes (bindingAt site target init)
  | rebind {site : Site} {target : LocalId} {value : Expr Site}
      (hnode : Node.stmt (.rebind site target value) ∈ nodes) :
      From nodes (bindingAt site target value)
  | item {site : Site} {target : LocalId} {collection : Expr Site} {body : Block Site (Stmt Site)}
      (hnode : Node.stmt (.forEach site target collection body) ∈ nodes) :
      From nodes (loopBindingAt site target collection body.label)

theorem Event.From.mono {nodes more : List (Node Site)} {event : Event}
    (hfrom : event.From nodes) (hmore : ∀ node ∈ nodes, node ∈ more) : event.From more := by
  cases hfrom with
  | use hnode => exact .use (hmore _ hnode)
  | out hnode => exact .out (hmore _ hnode)
  | declare hnode => exact .declare (hmore _ hnode)
  | rebind hnode => exact .rebind (hmore _ hnode)
  | item hnode => exact .item (hmore _ hnode)

theorem Node.ownEvents_from (node : Node Site) :
    ∀ event ∈ node.ownEvents, event.From node.nodes := by
  intro event hevent
  unfold ownEvents at hevent
  split at hevent
  · rw [List.mem_singleton.mp hevent]
    exact .declare (mem_nodes_self _)
  · rw [List.mem_singleton.mp hevent]
    exact .rebind (mem_nodes_self _)
  · rw [List.mem_singleton.mp hevent]
    exact .use (mem_nodes_self _)
  · cases hevent

theorem Node.events_from (node : Node Site) : ∀ event ∈ node.events, event.From node.nodes := by
  induction node using Node.induction with
  | step node ih =>
      intro event hevent
      obtain ⟨inner, ⟨entries, hparts, hlogs, rfl⟩, hevents⟩ := node.events_eq
      rw [hevents, List.mem_append, List.mem_flatMap] at hevent
      rcases hevent with ⟨⟨part, log⟩, hentry, hevent⟩ | hown
      · have hpart : part ∈ node.parts := hparts ▸ List.mem_map_of_mem hentry
        have hbelow : ∀ below ∈ part.nodes, below ∈ node.nodes := by
          intro below hbelow
          rw [Node.nodes_eq node]
          exact List.mem_cons_of_mem _ (List.mem_flatMap.mpr ⟨part, hpart, hbelow⟩)
        have hlog : node.Logs part log := hlogs _ hentry
        cases hlog with
        | own => exact (ih part hpart event hevent).mono hbelow
        | out site target =>
            rw [List.mem_singleton.mp hevent]
            exact .out (hbelow _ (mem_nodes_self _))
        | item hparent =>
            rcases List.mem_append.mp hevent with hevent | hevent
            · exact (ih _ hpart event hevent).mono hbelow
            · rw [List.mem_singleton.mp hevent]
              exact .item (hparent ▸ mem_nodes_self node)
      · exact node.ownEvents_from event hown

theorem Body.events_from (body : Body Site) : ∀ event ∈ body.events, event.From body.nodes := by
  rw [Body.events, Body.nodes, Stmt.eventsBlock_eq, Stmt.nodesBlock_eq]
  exact Node.events_from (.stmt body.root.toStmt)

/-! ### Extents -/

/-- The positions that an event takes up. -/
def Event.extent : Event → Span
  | .use _ expr => { start := expr.span.start, stop := expr.span.start + 1 }
  | .bind binding =>
    match binding.kind with
    | .external => binding.producer.span
    | _ => { start := binding.position - 1, stop := binding.position }

theorem Event.From.extent_stop {nodes : List (Node Site)} {binding : Binding}
    (hfrom : (Event.bind binding).From nodes) :
    (Event.bind binding).extent.stop = binding.position := by
  cases hfrom <;> rfl

/-- The extents of the events lie between two positions and follow each other. -/
def InOrder (first last : Nat) (events : List Event) : Prop :=
  events.Pairwise (fun earlier later => earlier.extent.stop ≤ later.extent.start) ∧
    ∀ event ∈ events, event.extent.Between first last

namespace InOrder

variable {first middle last : Nat} {left right events : List Event}

theorem nil : InOrder first last [] := ⟨List.Pairwise.nil, by simp⟩

theorem singleton {event : Event} (hevent : event.extent.Between first last) :
    InOrder first last [event] :=
  ⟨List.pairwise_singleton _ _, by simpa using hevent⟩

theorem widen {lower upper : Nat} (horder : InOrder first last events) (hlower : lower ≤ first)
    (hupper : last ≤ upper) : InOrder lower upper events :=
  ⟨horder.1, fun event hevent => (horder.2 event hevent).widen hlower hupper⟩

theorem append (hleft : InOrder first middle left) (hright : InOrder middle last right)
    (hfirst : first ≤ middle) (hlast : middle ≤ last) : InOrder first last (left ++ right) := by
  constructor
  · rw [List.pairwise_append]
    refine ⟨hleft.1, hright.1, ?_⟩
    intro earlier hearlier later hlater
    exact Nat.le_trans (hleft.2 earlier hearlier).2.2 (hright.2 later hlater).1
  · intro event hevent
    rcases List.mem_append.mp hevent with hevent | hevent
    · exact (hleft.2 event hevent).widen (Nat.le_refl _) hlast
    · exact (hright.2 event hevent).widen hfirst (Nat.le_refl _)

end InOrder

theorem extent_bindingAt {site : Site} {target : LocalId} {producer : Expr Site} {last : Nat}
    (hstop : site.span.stop = last + 1) :
    (bindingAt site target producer).extent.Between last (last + 1) := by
  simp only [bindingAt, Event.extent, Span.Between]
  omega

theorem extent_loopBindingAt {site : Site} {target : LocalId} {collection : Expr Site} {body : Site}
    {last : Nat} (hstop : collection.span.stop = last + 1) :
    (loopBindingAt site target collection body).extent.Between last (last + 1) := by
  simp only [loopBindingAt, Event.extent, Span.Between]
  omega

namespace Laid

variable {cursor inner next : Cursor} {row : List (Node Site)} {events : List Event}

/-- No event of an expression takes the last position of the expression. -/
theorem expr_events_inOrder {expr : Expr Site}
    (hparts : Laid cursor.tick (Node.expr expr).parts inner)
    (hlabel : (Node.expr expr).label = (inner.close cursor.position (Node.expr expr)).1)
    (hinner : InOrder cursor.tick.position inner.position events)
    (hevents : (Node.expr expr).events = events ++ (Node.expr expr).ownEvents) :
    InOrder cursor.position inner.position expr.events := by
  cases expr with
  | localVar site target =>
      have hstart := span_start hlabel
      have hle := hparts.position_le
      rw [Cursor.tick_position] at hle
      apply InOrder.singleton
      simp only [Event.extent, Span.Between]
      rw [Node.span_expr] at hstart
      omega
  | _ =>
      simp only [Node.events, Node.ownEvents, List.append_nil] at hevents
      rw [hevents]
      exact hinner.widen (Nat.le_succ _) (Nat.le_refl _)

theorem stmt_events_inOrder {stmt : Stmt Site}
    (hparts : Laid cursor.tick (Node.stmt stmt).parts inner)
    (hlabel : (Node.stmt stmt).label = (inner.close cursor.position (Node.stmt stmt)).1)
    (hinner : InOrder cursor.tick.position inner.position events)
    (hevents : (Node.stmt stmt).events = events ++ (Node.stmt stmt).ownEvents) :
    InOrder cursor.position (inner.position + 1) stmt.events := by
  have hstop := span_stop hparts hlabel
  have hle := hparts.position_le
  rw [Cursor.tick_position] at hle
  have hown : InOrder inner.position (inner.position + 1) (Node.stmt stmt).ownEvents := by
    unfold Node.ownEvents
    split
    · rename_i heq
      injection heq with heq
      subst heq
      exact InOrder.singleton (extent_bindingAt hstop)
    · rename_i heq
      injection heq with heq
      subst heq
      exact InOrder.singleton (extent_bindingAt hstop)
    · rename_i heq
      cases heq
    · exact InOrder.nil
  change (Node.stmt stmt).events = _ at hevents
  change InOrder _ _ (Node.stmt stmt).events
  rw [hevents]
  exact (hinner.widen (Nat.le_succ _) (Nat.le_refl _)).append hown (by omega) (Nat.le_succ _)

/-- What a row of laid nodes adds to the log of their parent is in order. -/
theorem logs_inOrder (hlaid : Laid cursor row next) :
    ∀ (parent : Node Site) (entries : List (Node Site × List Event)),
      entries.map Prod.fst = row → (∀ entry ∈ entries, parent.Logs entry.1 entry.2) →
        InOrder cursor.position next.position (entries.flatMap Prod.snd) := by
  induction hlaid with
  | nil cursor =>
      intro parent entries hrow _
      rw [List.map_eq_nil_iff.mp hrow]
      exact InOrder.nil
  | @cons cursor inner next outer rest hparts hlabel hrest ihparts ihrest =>
      intro parent entries hrow hlogs
      obtain ⟨⟨node, log⟩, others, rfl, hnode, hothers⟩ := List.map_eq_cons_iff.mp hrow
      change node = outer at hnode
      subst node
      have hlog : parent.Logs outer log := hlogs _ List.mem_cons_self
      have hpartsLe := hparts.position_le
      have hrestLe := hrest.position_le
      rw [Cursor.tick_position] at hpartsLe
      rw [Cursor.close_position] at hrestLe
      have hstop := span_stop hparts hlabel
      obtain ⟨events, ⟨partEntries, hpartRow, hpartLogs, rfl⟩, hevents⟩ := outer.events_eq
      have hinner := ihparts outer partEntries hpartRow hpartLogs
      have houter : InOrder cursor.position (inner.position + 1) log := by
        cases hlog with
        | own =>
            cases outer with
            | stmt stmt => exact stmt_events_inOrder hparts hlabel hinner hevents
            | expr expr =>
                exact (expr_events_inOrder hparts hlabel hinner hevents).widen
                  (Nat.le_refl _) (Nat.le_succ _)
        | out site target =>
            apply InOrder.singleton
            have hstart := span_start hlabel
            rw [Node.span_expr] at hstart hstop
            change site.span.Between _ _
            change site.span.start = _ at hstart
            change site.span.stop = _ at hstop
            rw [Span.Between]
            omega
        | item hparent =>
            exact (expr_events_inOrder hparts hlabel hinner hevents).append
              (InOrder.singleton (extent_loopBindingAt hstop)) (by omega) (Nat.le_succ _)
      have hafter := ihrest parent others hothers fun entry hentry =>
        hlogs entry (List.mem_cons_of_mem _ hentry)
      rw [Cursor.close_position] at hafter
      rw [List.flatMap_cons]
      exact houter.append hafter (by omega) hrestLe

end Laid

theorem Body.IsLaid.events_inOrder {body : Body Site} (hlaid : body.IsLaid) :
    InOrder 0 maxPosition body.events := by
  obtain ⟨first, last, hlaid, _, hlast⟩ := hlaid
  have horder := hlaid.logs_inOrder (.stmt body.root.toStmt)
    [(.stmt body.root.toStmt, (Node.stmt body.root.toStmt).events)] rfl
    (by simpa using Node.Logs.own _)
  rw [List.flatMap_singleton] at horder
  rw [Body.events, Stmt.eventsBlock_eq]
  exact horder.widen (Nat.zero_le _) (Nat.le_of_lt hlast)

end RefStability
