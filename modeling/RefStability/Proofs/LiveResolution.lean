import RefStability.Proofs.Detection
import RefStability.Proofs.Meaning

/-!
# The live binding is the one that is resolved

What holds at a position is found in two ways: by the scan for live bindings, which goes forward
through the log, and by resolution, which looks back from the position. The two agree on every
binding that is not the item of a loop. A live one is what its local is resolved to there, and what
a use is resolved to is live from where it holds up to that use.
-/

namespace RefStability

namespace Body.IsLaid

variable {body : Body Site} {binding : Binding} {position : Nat}

theorem extent_stop_le (hlaid : body.IsLaid) {earlier later : Nat} {first second : Event}
    (hlt : earlier < later) (hfirst : body.events[earlier]? = some first)
    (hsecond : body.events[later]? = some second) :
    first.extent.stop ≤ second.extent.start := by
  obtain ⟨hearlier, rfl⟩ := List.getElem?_eq_some_iff.mp hfirst
  obtain ⟨hlater, rfl⟩ := List.getElem?_eq_some_iff.mp hsecond
  exact List.pairwise_iff_getElem.mp hlaid.events_inOrder.1 _ _ hearlier hlater hlt

theorem extent_stop_lt_position (hlaid : body.IsLaid) {earlier later : Nat} {event : Event}
    (hlt : earlier < later) (hevent : body.events[earlier]? = some event)
    (hbinding : body.events[later]? = some (.bind binding)) :
    event.extent.stop < binding.position := by
  have hmem := List.mem_of_getElem? hbinding
  calc event.extent.stop ≤ (Event.bind binding).extent.start :=
        hlaid.extent_stop_le hlt hevent hbinding
    _ < (Event.bind binding).extent.stop := (hlaid.events_inOrder.2 _ hmem).2.1
    _ = binding.position := (body.events_from _ hmem).extent_stop

/-- An event that needs what is bound at a position is not over at that position. -/
theorem lt_extent_stop_of_needs (hlaid : body.IsLaid) {event : Event} {target : LocalId}
    (hevent : event ∈ body.events) (hneeds : event.Needs position target) :
    position < event.extent.stop := by
  cases event with
  | use used expr => exact Nat.lt_succ_of_le hneeds.2
  | bind next =>
      have hproducer := (body.events_from _ hevent).producer_node
      calc position < next.producer.span.start := hneeds.2
        _ < next.producer.span.stop := (hlaid.nodes_between hproducer).1
        _ ≤ next.position := hlaid.producer_stop_le hevent
        _ = (Event.bind next).extent.stop := (body.events_from _ hevent).extent_stop.symm

end Body.IsLaid

/-- A local is resolved to a binding that holds if all later bindings of the local come to hold only
after the position. -/
theorem Body.resolveAt?_of_last {body : Body Site} {binding : Binding} {position index : Nat}
    (hbinding : body.events[index]? = some (.bind binding))
    (hposition : binding.position ≤ position)
    (hlast : ∀ later other, index < later → body.events[later]? = some (.bind other) →
      other.target = binding.target → position < other.position) :
    body.resolveAt? binding.target position = some binding := by
  obtain ⟨hindex, hget⟩ := List.getElem?_eq_some_iff.mp hbinding
  have hsplit : body.events = body.events.take index ++ .bind binding ::
      body.events.drop (index + 1) := by
    rw [← hget, ← List.drop_eq_getElem_cons hindex, List.take_append_drop]
  have hlater : ((((body.events.drop (index + 1)).filterMap Event.binding?).filter fun other =>
      other.target == binding.target).filter fun other => other.position ≤ position) = [] := by
    rw [List.filter_eq_nil_iff]
    intro other hother
    obtain ⟨hmem, htarget⟩ := List.mem_filter.mp hother
    obtain ⟨later, hget⟩ := List.mem_iff_getElem?.mp (mem_of_mem_filterMap_binding? hmem)
    rw [List.getElem?_drop] at hget
    have hlt := hlast _ other (by omega) hget (eq_of_beq htarget)
    rw [decide_eq_true_eq, Nat.not_le]
    exact hlt
  have hheld : ∃ earlier, (body.bindingsOf binding.target).filter (fun other =>
      other.position ≤ position) = earlier ++ [binding] := by
    rw [bindingsOf, hsplit, List.filterMap_append, List.filter_append, List.filter_append]
    refine ⟨_, congrArg _ ?_⟩
    simp only [List.filterMap_cons, Event.binding?, List.filter_cons, beq_self_eq_true, if_true,
      hposition, decide_true, hlater]
  obtain ⟨earlier, hearlier⟩ := hheld
  rw [resolveAt?, ← List.getLast?_filter, hearlier, List.getLast?_concat]

namespace Body.IsLaid

variable {body : Body Site} {binding : Binding} {position : Nat}

/-- Looking back from a position at which it is live, a local is resolved to its binding. -/
theorem resolveAt?_of_liveAt (hlaid : body.IsLaid) {index : Nat}
    (hbinding : body.events[index]? = some (.bind binding)) (hloop : binding.isLoopItem = false)
    (hlive : LiveAt body.events index binding position) :
    body.resolveAt? binding.target position = some binding := by
  have hheld : binding.position ≤ position ∧ ∃ needed event,
      KeptUntil body.events binding.target index needed ∧ body.events[needed]? = some event ∧
        event.Needs position binding.target := by
    cases hkind : binding.kind with
    | loopItem span => simp [Binding.isLoopItem, hkind] at hloop
    | ordinary | external => simpa only [LiveAt, hkind] using hlive
  obtain ⟨hposition, needed, event, hkept, hevent, hneeds⟩ := hheld
  have hstop := hlaid.lt_extent_stop_of_needs (List.mem_of_getElem? hevent) hneeds
  apply Body.resolveAt?_of_last hbinding hposition
  intro later other hindex hother htarget
  -- The event that needs the binding comes no later than the next binding of the local.
  rcases Nat.lt_trichotomy later needed with hlt | rfl | hlt
  · exact absurd htarget (hkept.2 later hindex hlt other hother)
  · cases hevent.symm.trans hother
    rwa [(body.events_from _ (List.mem_of_getElem? hother)).extent_stop] at hstop
  · exact Nat.lt_trans hstop (hlaid.extent_stop_lt_position hlt hevent hother)

/-- From where it holds up to a use that sees it, a binding is live. -/
theorem liveAt_of_use (hlaid : body.IsLaid) {target : LocalId} {use : Expr Site}
    (huse : use ∈ body.usesOf target) (hresolve : body.resolve? use = some binding)
    (hloop : binding.isLoopItem = false) (hposition : binding.position ≤ position)
    (hstart : position ≤ use.span.start) :
    binding.target = target ∧ ∃ index, body.events[index]? = some (.bind binding) ∧
      LiveAt body.events index binding position := by
  obtain ⟨event, hmem, hevent⟩ := List.mem_filterMap.mp huse
  cases event with
  | bind other => cases hevent
  | use used expr =>
      rw [Option.ite_none_right_eq_some, Option.some.injEq] at hevent
      obtain ⟨rfl, rfl⟩ := hevent
      obtain ⟨later, hlater⟩ := List.mem_iff_getElem?.mp hmem
      obtain ⟨index, hindex, hkept⟩ := hlaid.keptUntil_use hlater hresolve
      have htarget : binding.target = used := by
        obtain ⟨_, site, rfl⟩ := Body.resolve?_mem_events hresolve
        cases body.events_from _ hmem with
        | use hnode => rfl
      subst htarget
      refine ⟨rfl, index, hindex, ?_⟩
      cases hkind : binding.kind with
      | loopItem span => simp [Binding.isLoopItem, hkind] at hloop
      | ordinary | external =>
          simp only [LiveAt, hkind]
          exact ⟨hposition, later, _, hkept, hlater, rfl, hstart⟩

end Body.IsLaid

/-- Of the bindings that are not items of loops, the scan reports at a position only what their
locals are resolved to there, so at most one for each local. It does report what a use of a
reference local is resolved to, at every position from where that binding holds up to the use, if
the binding can be traced. -/
theorem liveAt_agrees_resolve {document : Document.Program} {analysis : Analysis}
    (hlower : document.lower = .ok analysis.program)
    (hbody : analysis.body ∈ analysis.program.bodies) (position : Nat) :
    (∀ entry ∈ analysis.liveAt position, entry.binding.isLoopItem = false →
      analysis.body.resolveAt? entry.binding.target position = some entry.binding) ∧
    (∀ (first second : Nat) (left right : LiveBinding),
      (analysis.liveAt position)[first]? = some left →
      (analysis.liveAt position)[second]? = some right → left.binding.isLoopItem = false →
      right.binding.isLoopItem = false → left.binding.target = right.binding.target →
      first = second) ∧
    ∀ target, analysis.body.isRefLocal target = true → ∀ use ∈ analysis.body.usesOf target,
      ∀ binding, analysis.body.resolve? use = some binding → binding.isLoopItem = false →
      (analysis.bindingPath binding).isRepresentable = true →
      binding.position ≤ position → position ≤ use.span.start →
      ∃ entry ∈ analysis.liveAt position, entry.binding = binding := by
  have hlaid := Document.Program.lower_laid hlower hbody
  have hresolved : ∀ entry ∈ analysis.liveAt position, entry.binding.isLoopItem = false →
      analysis.body.resolveAt? entry.binding.target position = some entry.binding := by
    intro entry hentry hloop
    obtain ⟨index, hevent, _, _, hlive⟩ :=
      (Analysis.mem_liveAt_iff hlaid).mp (List.mem_map_of_mem hentry)
    exact hlaid.resolveAt?_of_liveAt hevent hloop hlive
  refine ⟨hresolved, ?_, ?_⟩
  · intro first second left right hleft hright hleftLoop hrightLoop htarget
    have hsame : some left.binding = some right.binding := by
      rw [← hresolved left (List.mem_of_getElem? hleft) hleftLoop, htarget,
        hresolved right (List.mem_of_getElem? hright) hrightLoop]
    obtain ⟨hlt, _⟩ := List.getElem?_eq_some_iff.mp hleft
    apply (List.getElem?_inj (by rwa [List.length_map])
      (Analysis.liveAt_nodup hlaid position)).mp
    rw [List.getElem?_map, List.getElem?_map, hleft, hright]
    exact hsame
  · intro target href use huse binding hresolve hloop hpath hposition hstart
    obtain ⟨rfl, index, hevent, hlive⟩ :=
      hlaid.liveAt_of_use huse hresolve hloop hposition hstart
    exact List.mem_map.mp
      ((Analysis.mem_liveAt_iff hlaid).mpr ⟨index, hevent, href, hpath, hlive⟩)

/-- The reference into the list is both live at the call that changes the list and what the local is
resolved to there. -/
theorem liveAt_agrees_resolve_list : ∃ (analysis : Analysis) (use : Expr Site) (binding : Binding),
    listDocument.lower = .ok analysis.program ∧ analysis.body ∈ analysis.program.bodies ∧
      analysis.body.isRefLocal binding.target = true ∧
      use ∈ analysis.body.usesOf binding.target ∧ analysis.body.resolve? use = some binding ∧
      binding.isLoopItem = false ∧ (analysis.bindingPath binding).isRepresentable = true ∧
      binding.position ≤ 12 ∧ 12 ≤ use.span.start ∧
      (∃ entry ∈ analysis.liveAt 12, entry.binding = binding) ∧
      analysis.body.resolveAt? binding.target 12 = some binding := by
  have hany : listDocument.anyBody (fun program body =>
      (body.usesOf 1)[0]?.any fun use => (body.resolve? use).any fun binding =>
        binding.target == 1 && body.isRefLocal 1 && !binding.isLoopItem &&
          ((Analysis.mk program body (.ofProgram program) defaultMaxSteps).bindingPath
            binding).isRepresentable &&
          decide (binding.position ≤ 12) && decide (12 ≤ use.span.start)) = true := by
    decide +kernel
  obtain ⟨program, body, hlower, hbody, htest⟩ := Document.Program.exists_of_anyBody hany
  simp only [Option.any_eq_true, Bool.and_eq_true, beq_iff_eq, decide_eq_true_eq,
    Bool.not_eq_true'] at htest
  obtain ⟨use, huse, binding, hresolve, ⟨⟨⟨⟨htarget, href⟩, hloop⟩, hpath⟩, hposition⟩, hstart⟩ :=
    htest
  have huse := List.mem_of_getElem? huse
  rw [← htarget] at href huse
  obtain ⟨hresolved, _, hlive⟩ := @liveAt_agrees_resolve listDocument
    ⟨program, body, .ofProgram program, defaultMaxSteps⟩ hlower hbody 12
  have hentry := hlive _ href use huse binding hresolve hloop hpath hposition hstart
  refine ⟨_, use, binding, hlower, hbody, href, huse, hresolve, hloop, hpath, hposition, hstart,
    hentry, ?_⟩
  obtain ⟨entry, hmem, rfl⟩ := hentry
  exact hresolved entry hmem hloop

end RefStability
