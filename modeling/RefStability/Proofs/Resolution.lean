import Mathlib.Data.List.Induction
import RefStability.Proofs.EventLog

/-!
# Resolution by position is replay

A local is resolved by comparing positions alone. Since the events of a laid body are in order, the
binding found in this way is the one that a run through the log has in hand when it comes to the
event.
-/

namespace RefStability

abbrev Environment := LocalId → Option Binding

def Event.apply (environment : Environment) (event : Event) : Environment := fun target =>
  match event with
  | .bind binding => if binding.target = target then some binding else environment target
  | .use _ _ => environment target

/-- What each local is bound to after the events, when none is bound before them. -/
def replay (events : List Event) : Environment := events.foldl Event.apply fun _ => none

theorem foldl_apply_eq_getLast? (events : List Event) (environment : Environment)
    (target : LocalId) :
    events.foldl Event.apply environment target =
      ((events.filterMap Event.binding?).filter fun binding =>
        binding.target == target).getLast?.or (environment target) := by
  induction events generalizing environment with
  | nil => rfl
  | cons event rest ih =>
      rw [List.foldl_cons, ih]
      cases event with
      | use used expr => rfl
      | bind binding =>
          by_cases htarget : binding.target = target
          · cases hlast : ((rest.filterMap Event.binding?).filter fun binding =>
              binding.target == target).getLast? <;>
              simp [Event.apply, Event.binding?, htarget, List.getLast?_cons, hlast]
          · simp [Event.apply, Event.binding?, htarget]

theorem replay_eq_getLast? (events : List Event) (target : LocalId) :
    replay events target =
      ((events.filterMap Event.binding?).filter fun binding =>
        binding.target == target).getLast? := by
  rw [replay, foldl_apply_eq_getLast?, Option.or_none]

/-- Nothing that follows the replayed binding binds the local again. -/
theorem exists_of_replay_eq_some {events : List Event} {target : LocalId} {binding : Binding}
    (hreplay : replay events target = some binding) :
    ∃ before after, events = before ++ .bind binding :: after ∧ binding.target = target ∧
      ∀ later, Event.bind later ∈ after → later.target ≠ target := by
  induction events using List.reverseRecOn with
  | nil => cases hreplay
  | append_singleton events event ih =>
      rw [replay, List.foldl_append] at hreplay
      change event.apply (replay events) target = some binding at hreplay
      unfold Event.apply at hreplay
      by_cases hbinds : event = .bind binding ∧ binding.target = target
      · exact ⟨events, [], by rw [hbinds.1], hbinds.2, by simp⟩
      · have hother : ∀ later, event = .bind later → later.target ≠ target := by
          rintro later rfl htarget
          simp only [if_pos htarget, Option.some.injEq] at hreplay
          subst hreplay
          exact hbinds ⟨rfl, htarget⟩
        have hbefore : replay events target = some binding := by
          cases event with
          | use used expr => exact hreplay
          | bind later =>
              simp only [if_neg (hother later rfl)] at hreplay
              exact hreplay
        obtain ⟨before, after, rfl, htarget, hafter⟩ := ih hbefore
        refine ⟨before, after ++ [event], by simp, htarget, ?_⟩
        intro later hlater
        rcases List.mem_append.mp hlater with hlater | hlater
        · exact hafter later hlater
        · exact hother later (List.mem_singleton.mp hlater).symm

theorem Event.eq_bind_of_binding? {event : Event} {binding : Binding}
    (hbinding : event.binding? = some binding) : event = .bind binding := by
  cases event with
  | use used expr => cases hbinding
  | bind found => rw [Option.some.inj hbinding]

theorem getElem?_eq_bind {events : List Event} {index : Nat} {binding : Binding}
    (hbinding : events[index]?.bind Event.binding? = some binding) :
    events[index]? = some (.bind binding) := by
  obtain ⟨event, hevent, hbinding⟩ := Option.bind_eq_some_iff.mp hbinding
  rw [hevent, Event.eq_bind_of_binding? hbinding]

theorem mem_of_mem_filterMap_binding? {events : List Event} {binding : Binding}
    (hbinding : binding ∈ events.filterMap Event.binding?) : Event.bind binding ∈ events := by
  obtain ⟨event, hevent, hbinding⟩ := List.mem_filterMap.mp hbinding
  rwa [← Event.eq_bind_of_binding? hbinding]

namespace Body

variable {body : Body Site} {event : Event} {index : Nat}

/-- If a position parts the log into bindings that hold at it and later ones, the local is resolved
to the last of the former. -/
theorem resolveAt?_eq_replay {before after : List Event} (hevents : body.events = before ++ after)
    {position : Nat}
    (hbefore : ∀ binding, Event.bind binding ∈ before → binding.position ≤ position)
    (hafter : ∀ binding, Event.bind binding ∈ after → position < binding.position)
    (target : LocalId) : body.resolveAt? target position = replay before target := by
  have hmem : ∀ {events : List Event} {binding : Binding},
      binding ∈ (events.filterMap Event.binding?).filter (fun binding => binding.target == target) →
        Event.bind binding ∈ events := fun hbinding =>
    mem_of_mem_filterMap_binding? (List.mem_filter.mp hbinding).1
  rw [resolveAt?, bindingsOf, hevents, List.filterMap_append, List.filter_append,
    ← List.getLast?_filter, List.filter_append, replay_eq_getLast?]
  have hkeep := List.filter_eq_self.mpr fun binding hbinding =>
    decide_eq_true (hbefore binding (hmem hbinding))
  have hdrop := List.filter_eq_nil_iff.mpr fun binding hbinding =>
    mt of_decide_eq_true (Nat.not_le.mpr (hafter binding (hmem hbinding)))
  rw [hkeep, hdrop, List.append_nil]

/-- Where the extent of an event starts, every local is resolved to what replaying the earlier
events gives. -/
theorem IsLaid.resolveAt?_extent (hlaid : body.IsLaid) (hevent : body.events[index]? = some event)
    (target : LocalId) :
    body.resolveAt? target event.extent.start = replay (body.events.take index) target := by
  obtain ⟨hpairwise, hbetween⟩ := hlaid.events_inOrder
  have hsplit : body.events = body.events.take index ++ event :: body.events.drop (index + 1) := by
    obtain ⟨hlt, rfl⟩ := List.getElem?_eq_some_iff.mp hevent
    rw [← List.drop_eq_getElem_cons hlt, List.take_append_drop]
  have hstop : ∀ binding, Event.bind binding ∈ body.events →
      (Event.bind binding).extent.stop = binding.position := fun binding hbinding =>
    (body.events_from _ hbinding).extent_stop
  rw [hsplit, List.pairwise_append, List.pairwise_cons] at hpairwise
  apply resolveAt?_eq_replay hsplit
  · intro binding hbinding
    rw [← hstop binding (List.mem_of_mem_take hbinding)]
    exact hpairwise.2.2 _ hbinding event List.mem_cons_self
  · intro binding hbinding
    have hmem : Event.bind binding ∈ body.events := hsplit ▸ List.mem_append_right _ hbinding
    have hself := (hbetween event (List.mem_of_getElem? hevent)).2.1
    rw [← hstop binding hmem]
    rcases List.mem_cons.mp hbinding with rfl | hlater
    · exact hself
    · have hle := hpairwise.2.1.1 _ hlater
      have hlt := (hbetween _ hmem).2.1
      omega

theorem IsLaid.resolve?_use (hlaid : body.IsLaid) {target : LocalId} {expr : Expr Site}
    (hevent : body.events[index]? = some (.use target expr)) :
    body.resolve? expr = replay (body.events.take index) target := by
  have hresolve := hlaid.resolveAt?_extent hevent target
  cases body.events_from _ (List.mem_of_getElem? hevent) with
  | use hnode => exact hresolve

theorem IsLaid.resolve?_out (hlaid : body.IsLaid) {binding : Binding}
    (hevent : body.events[index]? = some (.bind binding)) (hkind : binding.kind = .external) :
    body.resolve? binding.producer = replay (body.events.take index) binding.target := by
  have hresolve := hlaid.resolveAt?_extent hevent binding.target
  cases body.events_from _ (List.mem_of_getElem? hevent) with
  | out hnode => exact hresolve
  | declare hnode => cases hkind
  | rebind hnode => cases hkind
  | item hnode => cases hkind

theorem resolve?_position_le {expr : Expr Site} {binding : Binding}
    (hresolve : body.resolve? expr = some binding) : binding.position ≤ expr.span.start := by
  cases expr with
  | localVar site target =>
      have hfound := List.find?_some (show (body.bindingsOf target).reverse.find? _ = some binding
        from hresolve)
      exact of_decide_eq_true hfound
  | _ => cases hresolve

theorem resolve?_mem_events {expr : Expr Site} {binding : Binding}
    (hresolve : body.resolve? expr = some binding) :
    Event.bind binding ∈ body.events ∧ ∃ site, expr = .localVar site binding.target := by
  cases expr with
  | localVar site target =>
      have hfound := List.mem_of_find?_eq_some
        (show (body.bindingsOf target).reverse.find? _ = some binding from hresolve)
      rw [List.mem_reverse, bindingsOf, List.mem_filter, beq_iff_eq] at hfound
      exact ⟨mem_of_mem_filterMap_binding? hfound.1, site, by rw [hfound.2]⟩
  | _ => cases hresolve

end Body

/-- What an expression that uses a local sees by position is the last binding logged before the use.
An argument that a callee assigns sees the last binding before its own, never its own. -/
theorem resolve_eq_replay {document : Document.Program} {program : Program Site} {body : Body Site}
    (hlower : document.lower = .ok program) (hbody : body ∈ program.bodies)
    {index : Nat} {event : Event} (hevent : body.events[index]? = some event) :
    (∀ target expr, event = .use target expr →
      body.resolve? expr = replay (body.events.take index) target) ∧
    (∀ binding, event = .bind binding → binding.kind = .external →
      body.resolve? binding.producer = replay (body.events.take index) binding.target ∧
        body.resolve? binding.producer ≠ some binding) := by
  have hlaid := Document.Program.lower_laid hlower hbody
  constructor
  · rintro target expr rfl
    exact hlaid.resolve?_use hevent
  · rintro binding rfl hkind
    refine ⟨hlaid.resolve?_out hevent hkind, ?_⟩
    intro hself
    have hle := Body.resolve?_position_le hself
    have hmem := List.mem_of_getElem? hevent
    have hlt := (hlaid.events_inOrder.2 _ hmem).2.1
    rw [(body.events_from _ hmem).extent_stop] at hlt
    simp only [Event.extent, hkind] at hlt
    omega

/-- A reference into a list is taken, the list is changed, the reference is assigned by a callee, and
a loop over the list changes it again. -/
def listDocument : Document.Program where
  file := 0
  types := [⟨"List", true⟩, ⟨"Item", false⟩]
  methods :=
    [{ name := "Get", signature := none, params := [⟨"list", some "List", true⟩],
       kind := .elementAccessor, path := none, returnsRef := true, locals := [], body := none },
     { name := "Add", signature := none, params := [⟨"list", some "List", true⟩],
       kind := .plain, path := none, returnsRef := false, locals := [], body := none },
     { name := "run", signature := none, params := [], kind := .plain, path := none,
       returnsRef := false
       locals := [⟨"list", some "List", .value⟩, ⟨"r", some "Item", .ref⟩,
         ⟨"item", some "Item", .ref⟩]
       body := some
        [.declare "r" (some (.call "Get" [(.ref, .ident "list")] (some "Item"))),
         .eval (.call "Add" [(.ref, .ident "list")] none),
         .eval (.field (.ident "r") "size" none),
         .eval (.call "Add" [(.out, .ident "r")] none),
         .forEach "item" (.ident "list") [.eval (.call "Add" [(.ref, .ident "list")] none)]] }]

/-- The reference that is passed `out` is resolved to a binding before that. -/
theorem resolve_eq_replay_out : ∃ program body index binding,
    listDocument.lower = .ok program ∧ body ∈ program.bodies ∧
      body.events[index]? = some (.bind binding) ∧ binding.kind = .external ∧
      body.resolve? binding.producer = replay (body.events.take index) binding.target ∧
      body.resolve? binding.producer ≠ some binding := by
  have hany : listDocument.anyBody (fun _ body =>
      (body.events[4]?.bind Event.binding?).any (·.kind == .external)) = true := by
    decide +kernel
  obtain ⟨program, body, hlower, hbody, htest⟩ := Document.Program.exists_of_anyBody hany
  obtain ⟨binding, hbinding, hkind⟩ := (Option.any_eq_true _ _).mp htest
  have hevent := getElem?_eq_bind hbinding
  refine ⟨program, body, 4, binding, hlower, hbody, hevent, eq_of_beq hkind, ?_⟩
  exact (resolve_eq_replay hlower hbody hevent).2 binding rfl (eq_of_beq hkind)

end RefStability
