import Mathlib.Data.List.TakeWhile
import RefStability.Finding.Check
import RefStability.Proofs.Liveness

/-!
# Detection of invalidated references

A call that may resize storage is reported for every reference into that storage that is still
needed. The needed references are said by the use that sees them or by the loop that they belong to,
the storage by the segments of the two paths.
-/

namespace RefStability

/-! ### What a resize may move -/

/-- The inner path goes on from the outer one through an element or a view call, and the outer one
lies within its boundary. -/
def Path.LeadsInto (outer inner : Path) : Prop :=
  ∃ segment rest, inner.segments = outer.segments ++ segment :: rest ∧
    segment.isIndirection = true ∧ outer.length ≤ inner.boundary

namespace Path

variable {mutator victim : Path}

theorem explicit_eq_segments (hcalls : ∀ segment ∈ mutator.segments, segment.isCall = false) :
    mutator.explicit = mutator.segments := by
  apply List.takeWhile_eq_self_iff.mpr
  intro segment hsegment
  rw [hcalls segment hsegment, Bool.not_false]

theorem explicit_prefix (hcalls : ∀ segment ∈ mutator.segments, segment.isCall = false)
    (hleads : mutator.LeadsInto victim) : mutator.explicit <+: victim.explicit := by
  obtain ⟨segment, rest, hsegments, _, _⟩ := hleads
  rw [explicit_eq_segments hcalls, explicit, hsegments, List.takeWhile_append_of_pos]
  · exact List.prefix_append _ _
  · intro segment hsegment
    rw [hcalls segment hsegment, Bool.not_false]

theorem relation_of_leadsInto (hroot : mutator.segments ≠ [])
    (hcalls : ∀ segment ∈ mutator.segments, segment.isCall = false)
    (hleads : mutator.LeadsInto victim) :
    mutator.relation victim = .same ∨ mutator.relation victim = .parent := by
  have hprefix := explicit_prefix hcalls hleads
  obtain ⟨segment, rest, hsegments, _, _⟩ := hleads
  obtain ⟨root, tail, hmutator⟩ := List.exists_cons_of_ne_nil hroot
  have hmutatorRoot : mutator.root? = some root := by
    rw [root?, hmutator, List.head?_cons]
  have hvictimRoot : victim.root? = some root := by
    rw [root?, hsegments, hmutator, List.cons_append, List.head?_cons]
  unfold relation
  rw [hmutatorRoot, hvictimRoot]
  by_cases hsame : mutator.explicit = victim.explicit
  · simp [hsame]
  · simp [hsame, hprefix]

theorem resizableAccessSince_of_leadsInto (hleads : mutator.LeadsInto victim) :
    victim.resizableAccessSince mutator.length = true := by
  obtain ⟨segment, rest, hsegments, hindirection, hboundary⟩ := hleads
  apply List.any_eq_true.mpr
  refine ⟨segment, ?_, hindirection⟩
  have hat : victim.segments[mutator.length]? = some segment := by
    rw [hsegments, length, List.getElem?_append_right (Nat.le_refl _), Nat.sub_self]
    rfl
  apply List.mem_of_getElem? (i := 0)
  rw [List.getElem?_drop, List.getElem?_take, if_pos (by omega)]
  exact hat

theorem canInvalidate_of_leadsInto (hanchor : mutator.isAnchor = true)
    (hcalls : ∀ segment ∈ mutator.segments, segment.isCall = false)
    (hleads : mutator.LeadsInto victim) : mutator.canInvalidate victim = true := by
  have hexplicit : mutator.explicitLength = mutator.length := by
    rw [explicitLength, explicit_eq_segments hcalls, length]
  have haccess := resizableAccessSince_of_leadsInto hleads
  have hroot := ((isAnchor_iff mutator).mp hanchor).1
  unfold canInvalidate
  rw [hanchor, hexplicit, Bool.true_and]
  rcases relation_of_leadsInto hroot hcalls hleads with hrelation | hrelation
  · simp only [hrelation, haccess]
  · simp only [hrelation, haccess]

end Path

/-! ### What a call finds live -/

/-- The binding is needed when the call is made: a later use sees it, or the call lies in the body
of the loop whose item it binds. -/
inductive Body.Holds (body : Body Site) (binding : Binding) (call : Expr Site) : Prop
  | used {use : Expr Site} (hloop : binding.isLoopItem = false)
      (hposition : binding.position ≤ call.span.start)
      (huse : Event.use binding.target use ∈ body.events)
      (hstart : call.span.start ≤ use.span.start) (hresolve : body.resolve? use = some binding)
  | looped {loop : Site} {collection : Expr Site} {loopBody : Block Site (Stmt Site)}
      (hloop : Node.stmt (.forEach loop binding.target collection loopBody) ∈ body.nodes)
      (hbinding : Event.bind binding = loopBindingAt loop binding.target collection loopBody.label)
      (hinside : Node.expr call ∈ Stmt.nodesBlock loopBody)

namespace Body.IsLaid

variable {body : Body Site} {binding : Binding}

/-- The binding that a use sees is kept until that use. -/
theorem keptUntil_use (hlaid : body.IsLaid) {later : Nat} {target : LocalId} {use : Expr Site}
    (huse : body.events[later]? = some (.use target use))
    (hresolve : body.resolve? use = some binding) :
    ∃ index, body.events[index]? = some (.bind binding) ∧
      KeptUntil body.events target index later := by
  -- The use sees what replaying the log up to it gives, so nothing in between binds the local.
  rw [hlaid.resolve?_use huse] at hresolve
  obtain ⟨before, after, hsplit, htarget, hlater⟩ := exists_of_replay_eq_some hresolve
  have htake : ∀ index, index < later →
      body.events[index]? = (before ++ .bind binding :: after)[index]? := by
    intro index hindex
    rw [← hsplit, List.getElem?_take_of_lt hindex]
  have hlength : before.length < later := by
    have hlength := congrArg List.length hsplit
    rw [List.length_take, List.length_append, List.length_cons] at hlength
    omega
  refine ⟨before.length, ?_, hlength, ?_⟩
  · rw [htake _ hlength, List.getElem?_append_right (Nat.le_refl _), Nat.sub_self]
    rfl
  · intro between hbefore hbetween other hother
    rw [htake _ hbetween, List.getElem?_append_right (Nat.le_of_lt hbefore)] at hother
    obtain ⟨offset, hoffset⟩ := Nat.exists_eq_add_of_lt hbefore
    rw [hoffset, show before.length + offset + 1 - before.length = offset + 1 by omega] at hother
    exact hlater other (List.mem_of_getElem? hother)

theorem liveAt_of_holds (hlaid : body.IsLaid) {call : Expr Site} (hcall : call ∈ body.exprs)
    (hevent : Event.bind binding ∈ body.events) (hholds : body.Holds binding call) :
    ∃ index, body.events[index]? = some (.bind binding) ∧
      LiveAt body.events index binding call.span.start := by
  cases hholds with
  | used hloop hposition huse hstart hresolve =>
      obtain ⟨later, hlater⟩ := List.mem_iff_getElem?.mp huse
      obtain ⟨index, hindex, hkept⟩ := hlaid.keptUntil_use hlater hresolve
      refine ⟨index, hindex, ?_⟩
      cases hkind : binding.kind with
      | loopItem span => simp [Binding.isLoopItem, hkind] at hloop
      | ordinary | external =>
          simp only [LiveAt, hkind]
          exact ⟨hposition, later, _, hkept, hlater, rfl, hstart⟩
  | @looped loop collection loopBody hloop hbinding hinside =>
      obtain ⟨index, hindex⟩ := List.mem_iff_getElem?.mp hevent
      have hkind : binding.kind = .loopItem loopBody.label.span :=
        congrArg Binding.kind (Event.bind.inj hbinding)
      have hblock : Node.stmt loopBody.toStmt ∈ body.nodes :=
        Body.mem_nodes_of_part hloop (List.mem_cons_of_mem _ (List.mem_singleton_self _))
      rw [Stmt.nodesBlock_eq] at hinside
      have hbetween := hlaid.below_between hblock hinside
      have hspan := (hlaid.nodes_between ((Body.mem_exprs_iff body call).mp hcall)).1
      refine ⟨index, hindex, ?_⟩
      simp only [LiveAt, hkind]
      exact ⟨hbetween.1, Nat.lt_of_lt_of_le hspan hbetween.2⟩

end Body.IsLaid

/-! ### What is reported -/

namespace Analysis

variable {analysis : Analysis}

theorem exists_liveAt {binding : Binding} {declared : LocalDecl Site} {victim : Path}
    {position index : Nat} (hlaid : analysis.body.IsLaid)
    (hevent : analysis.body.events[index]? = some (.bind binding))
    (hlocal : analysis.body.locals[binding.target]? = some declared)
    (href : declared.kind = .ref) (hvictim : analysis.traceBinding binding = .ok victim)
    (hroot : victim.segments ≠ []) (hlive : LiveAt analysis.body.events index binding position) :
    ∃ entry ∈ analysis.liveAt position,
      entry.binding = binding ∧ entry.name = declared.name ∧ entry.path = victim := by
  have hpath : analysis.bindingPath binding = victim := by
    rw [bindingPath, hvictim, pathOrUnrepresentable]
  have hisRef : analysis.body.isRefLocal binding.target = true := by
    rw [Body.isRefLocal, hlocal, Option.any_some, LocalDecl.isRef, href]
    rfl
  have hrepresentable : (analysis.bindingPath binding).isRepresentable = true := by
    rw [hpath]
    exact victim.isRepresentable_iff.mpr hroot
  obtain ⟨entry, hentry, rfl⟩ := List.mem_map.mp
    ((mem_liveAt_iff hlaid).mpr ⟨index, hevent, hisRef, hrepresentable, hlive⟩)
  obtain ⟨_, hentryPath, found, hfound, hname⟩ := of_mem_liveAt hentry
  cases hlocal.symm.trans hfound
  exact ⟨entry, hentry, rfl, hname, hentryPath.trans hpath⟩

theorem mem_findings_of_liveAt {site : Site} {id : MethodId} {args : List (PassMode × Expr Site)}
    {ty : TypeId} {method : Method Site} {argument : Expr Site} {mutator : Path}
    {entry : LiveBinding} (hcall : Expr.call site id args ty ∈ analysis.body.exprs)
    (hmethod : analysis.program.methods[id]? = some method) (hkind : method.kind = .plain)
    (htemplate : analysis.templates.get? id = none) (hargument : (PassMode.ref, argument) ∈ args)
    (hmutator : analysis.trace argument none = .ok mutator) (hanchor : mutator.isAnchor = true)
    (hentry : entry ∈ analysis.liveAt site.span.start)
    (hinvalidate : mutator.canInvalidate entry.path = true) :
    .invalidatedReference (analysis.locate site.span) method.signature mutator.render entry.name
      entry.path.render (analysis.locate entry.binding.span) ∈ analysis.findings := by
  have htraced : (argument, mutator) ∈ analysis.tracedArguments (refArguments args) := by
    refine List.mem_filterMap.mpr ⟨argument, ?_, by rw [hmutator]⟩
    exact List.mem_filterMap.mpr ⟨(.ref, argument), hargument, rfl⟩
  have hinvalidation : .invalidatedReference (analysis.locate site.span) method.signature
      mutator.render entry.name entry.path.render (analysis.locate entry.binding.span) ∈
      analysis.invalidations site.span method (analysis.tracedArguments (refArguments args)) := by
    refine List.mem_flatMap.mpr ⟨(argument, mutator), List.mem_filter.mpr ⟨htraced, hanchor⟩, ?_⟩
    exact List.mem_map.mpr ⟨entry, List.mem_filter.mpr ⟨hentry, hinvalidate⟩, rfl⟩
  have hhelper : analysis.isReferenceHelper id method = false := by
    rw [isReferenceHelper, hkind, htemplate]
    rfl
  rw [Body.mem_exprs_iff] at hcall
  refine List.mem_flatMap.mpr ⟨_, hcall, ?_⟩
  simp only [checkNode, checkCall, hmethod, hhelper, Bool.false_eq_true, if_false]
  exact List.mem_append_left _ (List.mem_append_right _ hinvalidation)

end Analysis

/-- No invalidated reference is missed: a call to a method about which nothing is known is reported
for every needed reference into the resizable storage that it is given. -/
theorem invalidatedReference_mem_findings {document : Document.Program} {analysis : Analysis}
    (hlower : document.lower = .ok analysis.program)
    (hbody : analysis.body ∈ analysis.program.bodies)
    {site : Site} {id : MethodId} {args : List (PassMode × Expr Site)} {ty : TypeId}
    {method : Method Site} {argument : Expr Site} {mutator : Path}
    (hcall : Expr.call site id args ty ∈ analysis.body.exprs)
    (hmethod : analysis.program.methods[id]? = some method) (hkind : method.kind = .plain)
    (htemplate : analysis.templates.get? id = none) (hargument : (PassMode.ref, argument) ∈ args)
    (hmutator : analysis.trace argument none = .ok mutator) (hanchor : mutator.isAnchor = true)
    (hcalls : ∀ segment ∈ mutator.segments, segment.isCall = false)
    {binding : Binding} {declared : LocalDecl Site} {victim : Path}
    (hevent : Event.bind binding ∈ analysis.body.events)
    (hlocal : analysis.body.locals[binding.target]? = some declared)
    (href : declared.kind = .ref) (hvictim : analysis.traceBinding binding = .ok victim)
    (hleads : mutator.LeadsInto victim)
    (hholds : analysis.body.Holds binding (.call site id args ty)) :
    .invalidatedReference (analysis.locate site.span) method.signature mutator.render declared.name
      victim.render (analysis.locate binding.span) ∈ analysis.findings := by
  have hlaid := Document.Program.lower_laid hlower hbody
  have hroot : victim.segments ≠ [] := by
    obtain ⟨segment, rest, hsegments, _⟩ := hleads
    rw [hsegments]
    exact List.append_ne_nil_of_right_ne_nil _ (List.cons_ne_nil _ _)
  obtain ⟨index, hindex, hlive⟩ := hlaid.liveAt_of_holds hcall hevent hholds
  obtain ⟨entry, hentry, rfl, hname, rfl⟩ :=
    Analysis.exists_liveAt hlaid hindex hlocal href hvictim hroot hlive
  rw [← hname]
  exact Analysis.mem_findings_of_liveAt hcall hmethod hkind htemplate hargument hmutator hanchor
    hentry (Path.canInvalidate_of_leadsInto hanchor hcalls hleads)

/-- Expression 3 is a call that may resize the list, and event 3 uses a reference into the list that
was taken before the call. -/
def resizesListInUse (analysis : Analysis) : Bool :=
  match analysis.body.exprs[3]?, analysis.body.events[3]? with
  | some (Expr.call site id [(PassMode.ref, argument)] _), some (Event.use target use) =>
    (analysis.program.methods[id]?).any (fun method => method.kind == .plain) &&
    (analysis.templates.get? id).isNone &&
    decide (analysis.trace argument none = .ok (.ofSegments [.name "list"] 1 false)) &&
    (analysis.body.resolve? use).any (fun binding =>
      binding.target == target && !binding.isLoopItem &&
      decide (binding.position ≤ site.span.start) &&
      decide (site.span.start ≤ use.span.start) &&
      (analysis.body.locals[binding.target]?).any (fun declared =>
        declared.name == "r" && declared.kind == .ref) &&
      decide (analysis.traceBinding binding = .ok (.ofSegments [.name "list", .index] 1 false)))
  | _, _ => false

/-- The list is changed between the taking of a reference into it and a use of that reference. -/
theorem invalidatedReference_mem_findings_list :
    ∃ (analysis : Analysis) (site : Site) (id : MethodId) (args : List (PassMode × Expr Site))
      (ty : TypeId) (method : Method Site) (binding : Binding),
      listDocument.lower = .ok analysis.program ∧ analysis.body ∈ analysis.program.bodies ∧
      Expr.call site id args ty ∈ analysis.body.exprs ∧
      analysis.program.methods[id]? = some method ∧ method.kind = .plain ∧
      analysis.templates.get? id = none ∧ Event.bind binding ∈ analysis.body.events ∧
      analysis.body.Holds binding (.call site id args ty) ∧
      .invalidatedReference (analysis.locate site.span) method.signature "list!" "r" "list![]"
        (analysis.locate binding.span) ∈ analysis.findings := by
  have hany : listDocument.anyBody (fun program body =>
      resizesListInUse ⟨program, body, .ofProgram program, defaultMaxSteps⟩) = true := by
    decide +kernel
  obtain ⟨program, body, hlower, hbody, htest⟩ := Document.Program.exists_of_anyBody hany
  unfold resizesListInUse at htest
  split at htest
  · rename_i site id argument ty target use hcall huse
    simp only [Bool.and_eq_true, decide_eq_true_eq, Option.any_eq_true, beq_iff_eq,
      Option.isNone_iff_eq_none, Bool.not_eq_true'] at htest
    obtain ⟨⟨⟨⟨method, hmethod, hkind⟩, htemplate⟩, hmutator⟩, binding, hresolve, hbinding⟩ := htest
    obtain ⟨⟨⟨⟨⟨rfl, hloop⟩, hposition⟩, hstart⟩, hdeclared⟩, hvictim⟩ := hbinding
    obtain ⟨declared, hlocal, hname, href⟩ := hdeclared
    have hmem := List.mem_of_getElem? hcall
    have hevent := (Body.resolve?_mem_events hresolve).1
    have hholds : body.Holds binding (.call site id [(.ref, argument)] ty) :=
      .used hloop hposition (List.mem_of_getElem? huse) hstart hresolve
    refine ⟨⟨program, body, .ofProgram program, defaultMaxSteps⟩, site, id, _, ty, method, binding,
      hlower, hbody, hmem, hmethod, hkind, htemplate, hevent, hholds, ?_⟩
    rw [← hname]
    exact invalidatedReference_mem_findings hlower hbody hmem hmethod hkind htemplate
      (List.mem_singleton_self _) hmutator (by decide) (by decide) hevent hlocal href hvictim
      ⟨.index, [], rfl, rfl, by decide⟩ hholds
  · cases htest

end RefStability
