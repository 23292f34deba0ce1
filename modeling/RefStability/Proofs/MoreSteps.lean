import Mathlib.Data.List.Flatten
import Mathlib.Data.List.Infix
import RefStability.Proofs.Problem
import RefStability.Proofs.StepBound

/-!
# More steps uncover problems

A bound that is too small cuts walks off. What cannot be traced takes no part in any problem but the
one of not being traced, and what can be traced has the same path under every larger bound. So a
larger bound reports all invalidated references, all shared storage and all escapes that a smaller
one does, in the same words, and leaves no more arguments untraced. Once the bound is as large as
the body no walk is cut off, and nothing depends on it any more.
-/

namespace RefStability

/-- The argument that could not be traced, if that is the problem. -/
def Problem.untraced? : Problem → Option (Expr Site)
  | .untraceable argument _ => some argument
  | _ => none

namespace Path

theorem canInvalidate_victim_unrepresentable (mutator : Path) :
    mutator.canInvalidate unrepresentable = false := by
  rw [canInvalidate, (relation_unrepresentable mutator).2, Bool.and_false]

end Path

namespace Analysis

variable {analysis : Analysis} {fewer more : Nat}

section Paths

variable (hle : fewer ≤ more)
include hle

theorem path_eq_of_le (expr : Expr Site) (elementType : Option TypeId) :
    (analysis.withMaxSteps fewer).path expr elementType = .unrepresentable ∨
      (analysis.withMaxSteps fewer).path expr elementType =
        (analysis.withMaxSteps more).path expr elementType :=
  (trace_eq_of_le hle expr elementType).imp path_of_failure (congrArg pathOrUnrepresentable)

theorem bindingPath_eq_of_le (binding : Binding) :
    (analysis.withMaxSteps fewer).bindingPath binding = .unrepresentable ∨
      (analysis.withMaxSteps fewer).bindingPath binding =
        (analysis.withMaxSteps more).bindingPath binding := by
  unfold bindingPath traceBinding
  cases binding.kind with
  | external => exact .inl rfl
  | loopItem span => exact path_eq_of_le hle _ _
  | ordinary => exact path_eq_of_le hle _ _

/-! ### Problems need paths -/

theorem paths_of_mayMove {argument : Expr Site} {victim : Binding}
    (hmove : (analysis.withMaxSteps fewer).mayMove argument victim = true) :
    (analysis.withMaxSteps fewer).path argument none =
        (analysis.withMaxSteps more).path argument none ∧
      (analysis.withMaxSteps fewer).bindingPath victim =
        (analysis.withMaxSteps more).bindingPath victim := by
  rw [mayMove] at hmove
  constructor
  · refine (path_eq_of_le hle argument none).resolve_left fun hpath => ?_
    rw [hpath, Path.canInvalidate_unrepresentable] at hmove
    exact Bool.false_ne_true hmove
  · refine (bindingPath_eq_of_le hle victim).resolve_left fun hpath => ?_
    rw [hpath, Path.canInvalidate_victim_unrepresentable] at hmove
    exact Bool.false_ne_true hmove

theorem paths_of_mayShare {first second : Expr Site}
    (hshare : (analysis.withMaxSteps fewer).mayShare first second = true) :
    (analysis.withMaxSteps fewer).path first none =
        (analysis.withMaxSteps more).path first none ∧
      (analysis.withMaxSteps fewer).path second none =
        (analysis.withMaxSteps more).path second none := by
  rw [mayShare] at hshare
  constructor
  · refine (path_eq_of_le hle first none).resolve_left fun hpath => ?_
    obtain ⟨hleft, hright⟩ := Path.canAlias_unrepresentable
      ((analysis.withMaxSteps fewer).path second none)
    rw [hpath, hleft, hright] at hshare
    exact Bool.false_ne_true hshare
  · refine (path_eq_of_le hle second none).resolve_left fun hpath => ?_
    obtain ⟨hleft, hright⟩ := Path.canAlias_unrepresentable
      ((analysis.withMaxSteps fewer).path first none)
    rw [hpath, hleft, hright] at hshare
    exact Bool.false_ne_true hshare

theorem path_of_isScoped {value : Expr Site}
    (hscoped : ((analysis.withMaxSteps fewer).path value none).isScoped = true) :
    (analysis.withMaxSteps fewer).path value none =
      (analysis.withMaxSteps more).path value none := by
  refine (path_eq_of_le hle value none).resolve_left fun hpath => ?_
  rw [hpath] at hscoped
  exact Bool.false_ne_true hscoped

theorem isTraceable_of_le {expr : Expr Site}
    (htraceable : (analysis.withMaxSteps fewer).isTraceable expr = true) :
    (analysis.withMaxSteps more).isTraceable expr = true := by
  rcases trace_eq_of_le hle expr none with hcut | hsame
  · rw [isTraceable, hcut] at htraceable
    cases htraceable
  · rwa [isTraceable, ← hsame]

/-! ### The problems of a body -/

theorem map_binding_liveAt_sublist (position : Nat) :
    (((analysis.withMaxSteps fewer).liveAt position).map LiveBinding.binding).Sublist
      (((analysis.withMaxSteps more).liveAt position).map LiveBinding.binding) := by
  rw [map_binding_liveAt, map_binding_liveAt]
  refine List.monotone_filter_right _ fun binding hfound => ?_
  rw [Bool.and_eq_true_iff] at hfound ⊢
  refine ⟨hfound.1, ?_⟩
  rcases bindingPath_eq_of_le hle binding with hcut | hsame
  · rw [hcut] at hfound
    cases hfound.2
  · rw [← hsame]
    exact hfound.2

theorem invalidationProblems_sublist (call : Expr Site) (arguments : List (Expr Site)) :
    ((analysis.withMaxSteps fewer).invalidationProblems call arguments).Sublist
      ((analysis.withMaxSteps more).invalidationProblems call arguments) := by
  refine List.Sublist.flatMap_right _ fun argument _ => ?_
  refine List.Sublist.map _ ?_
  refine ((map_binding_liveAt_sublist hle _).filter _).trans ?_
  refine List.monotone_filter_right _ fun victim hmove => ?_
  obtain ⟨hargument, hvictim⟩ := paths_of_mayMove hle hmove
  rwa [mayMove, ← hargument, ← hvictim]

theorem sharingProblems_sublist (call : Expr Site) (arguments : List (Expr Site)) :
    ((analysis.withMaxSteps fewer).sharingProblems call arguments).Sublist
      ((analysis.withMaxSteps more).sharingProblems call arguments) := by
  refine (List.monotone_filter_right _ fun pair hshare => ?_).map _
  obtain ⟨hfirst, hsecond⟩ := paths_of_mayShare hle hshare
  rwa [mayShare, ← hfirst, ← hsecond]

theorem callProblemsOf_sublist (call : Expr Site) (id : MethodId) (method : Method Site)
    (arguments : List (Expr Site)) {rule : Rule} (hrule : rule ≠ .unverifiableReference) :
    ((analysis.withMaxSteps fewer).callProblemsOf call id method arguments rule).Sublist
      ((analysis.withMaxSteps more).callProblemsOf call id method arguments rule) := by
  have hhelper : ∀ maxSteps, (analysis.withMaxSteps maxSteps).isReferenceHelper id method =
      analysis.isReferenceHelper id method := fun _ => rfl
  cases rule with
  | unverifiableReference => exact absurd rfl hrule
  | resizeInvalidatesReference =>
      rw [callProblemsOf, callProblemsOf, hhelper, hhelper]
      split
      · exact List.Sublist.refl _
      · exact invalidationProblems_sublist hle call arguments
  | aliasedDynamicArguments => exact sharingProblems_sublist hle call arguments
  | scopedReferenceEscape => exact List.Sublist.refl _

/-- A return that is reported under a smaller bound is reported under a larger one. -/
theorem nodeProblems_ret_sublist (site : Site) (value : Expr Site) :
    ((analysis.withMaxSteps fewer).nodeProblems (.stmt (.ret site (some value)))).Sublist
      ((analysis.withMaxSteps more).nodeProblems (.stmt (.ret site (some value)))) := by
  have hreturns : (analysis.withMaxSteps more).returnsRef =
      (analysis.withMaxSteps fewer).returnsRef := rfl
  simp only [nodeProblems, hreturns]
  split
  · rename_i hescapes
    rw [Bool.and_eq_true_iff] at hescapes
    rw [← path_of_isScoped hle hescapes.2, hescapes.1, hescapes.2]
    exact List.Sublist.refl _
  · exact List.nil_sublist _

theorem nodeProblems_sublist (node : Node Site) {rule : Rule}
    (hrule : rule ≠ .unverifiableReference) :
    (((analysis.withMaxSteps fewer).nodeProblems node).filter fun problem =>
        problem.rule = rule).Sublist
      (((analysis.withMaxSteps more).nodeProblems node).filter fun problem =>
        problem.rule = rule) := by
  cases node with
  | stmt stmt =>
      cases stmt with
      | ret site value =>
          cases value with
          | none => exact List.Sublist.refl _
          | some value => exact (nodeProblems_ret_sublist hle site value).filter _
      | _ => exact List.Sublist.refl _
  | expr expr =>
      cases expr with
      | call site id args ty =>
          have hmethods : ∀ maxSteps, (analysis.withMaxSteps maxSteps).program.methods =
              analysis.program.methods := fun _ => rfl
          simp only [nodeProblems, hmethods]
          cases analysis.program.methods[id]? with
          | none => exact List.Sublist.refl _
          | some method =>
              rw [filter_callProblems, filter_callProblems]
              exact callProblemsOf_sublist hle _ id method _ hrule
      | _ => exact List.Sublist.refl _

theorem problems_sublist {rule : Rule} (hrule : rule ≠ .unverifiableReference) :
    ((analysis.withMaxSteps fewer).problems.filter fun problem => problem.rule = rule).Sublist
      ((analysis.withMaxSteps more).problems.filter fun problem => problem.rule = rule) := by
  rw [problems, problems, List.filter_flatMap, List.filter_flatMap]
  exact List.Sublist.flatMap_right _ fun node _ => nodeProblems_sublist hle node hrule

end Paths

/-! ### Problems in words -/

/-- What the paths must allow for something to be a problem. -/
def Allows (analysis : Analysis) : Problem → Prop
  | .untraceable _ _ => True
  | .invalidation _ argument victim => analysis.mayMove argument victim = true
  | .sharing _ first second => analysis.mayShare first second = true
  | .escape _ value => (analysis.path value none).isScoped = true

theorem allows_of_mem_callProblemsOf {call : Expr Site} {id : MethodId} {method : Method Site}
    {arguments : List (Expr Site)} {rule : Rule} {problem : Problem}
    (hproblem : problem ∈ analysis.callProblemsOf call id method arguments rule) :
    analysis.Allows problem := by
  cases rule with
  | unverifiableReference =>
      have hrule := rule_of_mem_callProblemsOf hproblem
      cases problem with
      | untraceable argument failure => trivial
      | _ => cases hrule
  | resizeInvalidatesReference =>
      rw [callProblemsOf] at hproblem
      split at hproblem
      · cases hproblem
      · obtain ⟨argument, _, hargument⟩ := List.mem_flatMap.mp hproblem
        obtain ⟨victim, hvictim, rfl⟩ := List.mem_map.mp hargument
        exact (List.mem_filter.mp hvictim).2
  | aliasedDynamicArguments =>
      obtain ⟨pair, hpair, rfl⟩ := List.mem_map.mp hproblem
      exact (List.mem_filter.mp hpair).2
  | scopedReferenceEscape => cases hproblem

theorem allows_of_mem_problems {problem : Problem} (hproblem : problem ∈ analysis.problems) :
    analysis.Allows problem := by
  obtain ⟨node, _, hproblem⟩ := List.mem_flatMap.mp hproblem
  unfold nodeProblems at hproblem
  split at hproblem
  · split at hproblem
    · cases hproblem
    · rw [callProblems, List.mem_append, List.mem_append] at hproblem
      rcases hproblem with (hproblem | hproblem) | hproblem
      · exact allows_of_mem_callProblemsOf hproblem
      · exact allows_of_mem_callProblemsOf hproblem
      · exact allows_of_mem_callProblemsOf hproblem
  · split at hproblem
    · rename_i hescapes
      rw [List.mem_singleton.mp hproblem]
      exact (Bool.and_eq_true_iff.mp hescapes).2
    · cases hproblem
  · cases hproblem

/-- A problem is put into the same words under a larger bound. -/
theorem finding_eq_of_le (hle : fewer ≤ more) {problem : Problem}
    (hproblem : (analysis.withMaxSteps fewer).Allows problem) :
    (analysis.withMaxSteps more).finding problem =
      (analysis.withMaxSteps fewer).finding problem := by
  cases problem with
  | untraceable argument failure => rfl
  | invalidation call argument victim =>
      obtain ⟨hargument, hvictim⟩ := paths_of_mayMove hle hproblem
      rw [finding, finding, ← hargument, ← hvictim]
      cases call <;> rfl
  | sharing call first second =>
      obtain ⟨hfirst, hsecond⟩ := paths_of_mayShare hle hproblem
      rw [finding, finding, ← hfirst, ← hsecond]
      cases call <;> rfl
  | escape statement value =>
      rw [finding, finding, ← path_of_isScoped hle hproblem]
      rfl

/-! ### Arguments that are not traced -/

theorem filterMap_untraced?_untraceableProblems (arguments : List (Expr Site)) :
    (analysis.untraceableProblems arguments).filterMap Problem.untraced? =
      arguments.filter fun argument => !analysis.isTraceable argument := by
  rw [untraceableProblems, List.filterMap_filterMap, ← List.filterMap_eq_filter]
  congr 1
  funext argument
  rw [Option.guard, isTraceable]
  cases analysis.trace argument none <;> rfl

theorem filterMap_untraced?_callProblems (call : Expr Site) (id : MethodId) (method : Method Site)
    (arguments : List (Expr Site)) :
    (analysis.callProblems call id method arguments).filterMap Problem.untraced? =
      arguments.filter fun argument => !analysis.isTraceable argument := by
  have hother : ∀ rule ≠ Rule.unverifiableReference,
      (analysis.callProblemsOf call id method arguments rule).filterMap Problem.untraced? = [] := by
    intro rule hrule
    rw [List.filterMap_eq_nil_iff]
    intro problem hproblem
    cases problem with
    | untraceable argument failure => exact absurd (rule_of_mem_callProblemsOf hproblem).symm hrule
    | _ => rfl
  rw [callProblems, List.filterMap_append, List.filterMap_append,
    hother .resizeInvalidatesReference (by decide), hother .aliasedDynamicArguments (by decide),
    List.append_nil, List.append_nil]
  exact filterMap_untraced?_untraceableProblems arguments

theorem untraced_sublist (hle : fewer ≤ more) :
    ((analysis.withMaxSteps more).problems.filterMap Problem.untraced?).Sublist
      ((analysis.withMaxSteps fewer).problems.filterMap Problem.untraced?) := by
  rw [problems, problems, List.filterMap_flatMap, List.filterMap_flatMap]
  refine List.Sublist.flatMap_right _ fun node _ => ?_
  cases node with
  | stmt stmt =>
      cases stmt with
      | ret site value =>
          cases value with
          | none => exact List.Sublist.refl _
          | some value =>
              rw [nodeProblems, nodeProblems]
              split
              · exact List.nil_sublist _
              · exact List.nil_sublist _
      | _ => exact List.Sublist.refl _
  | expr expr =>
      cases expr with
      | call site id args ty =>
          have hmethods : ∀ maxSteps, (analysis.withMaxSteps maxSteps).program.methods =
              analysis.program.methods := fun _ => rfl
          simp only [nodeProblems, hmethods]
          cases analysis.program.methods[id]? with
          | none => exact List.Sublist.refl _
          | some method =>
              simp only [filterMap_untraced?_callProblems]
              refine List.monotone_filter_right _ fun argument huntraced => ?_
              rw [Bool.not_eq_true'] at huntraced ⊢
              by_contra htraceable
              rw [Bool.not_eq_false] at htraceable
              rw [isTraceable_of_le hle htraceable] at huntraced
              cases huntraced
      | _ => exact List.Sublist.refl _

/-! ### Enough steps for a body -/

section Enough

variable {first second : Nat} (hlaid : analysis.body.IsLaid)
  (hfirst : analysis.body.exprs.length ≤ first) (hsecond : analysis.body.exprs.length ≤ second)
include hlaid hfirst hsecond

theorem trace_eq_of_length_le {expr : Expr Site} (hexpr : expr ∈ analysis.body.exprs)
    (elementType : Option TypeId) :
    (analysis.withMaxSteps first).trace expr elementType =
      (analysis.withMaxSteps second).trace expr elementType := by
  obtain ⟨index, hindex⟩ := List.mem_iff_getElem?.mp hexpr
  obtain ⟨hlt, _⟩ := List.getElem?_eq_some_iff.mp hindex
  have hnumber := hlaid.index_eq_of_getElem? hindex
  have hends : ∀ bound limit, analysis.body.exprs.length ≤ bound →
      (analysis.withMaxSteps bound).trace expr elementType ≠ .error (.stepLimit limit) := by
    intro bound limit hbound
    have hlaidBound : (analysis.withMaxSteps bound).body.IsLaid := hlaid
    exact walk_ne_stepLimit hlaidBound hexpr
      (show expr.label.index < (analysis.withMaxSteps bound).maxSteps by
        rw [hnumber]; exact Nat.lt_of_lt_of_le hlt hbound) _ limit
  rcases Nat.le_total first second with hle | hle
  · exact (trace_eq_of_le hle expr elementType).resolve_left (hends first first hfirst)
  · exact ((trace_eq_of_le hle expr elementType).resolve_left (hends second second hsecond)).symm

theorem liveAt_eq_of_length_le (position : Nat) :
    (analysis.withMaxSteps first).liveAt position =
      (analysis.withMaxSteps second).liveAt position := by
  refine List.filterMap_congr fun tracked htracked => ?_
  have hproducer : tracked.binding.producer ∈ analysis.body.exprs := by
    rw [Body.mem_exprs_iff]
    exact (analysis.body.events_from _ (hlaid.bind_mem_of_mem_tracksAt htracked)).producer_node
  have htrace := trace_eq_of_length_le hlaid hfirst hsecond hproducer
  have hpath : (analysis.withMaxSteps first).bindingPath tracked.binding =
      (analysis.withMaxSteps second).bindingPath tracked.binding := by
    unfold bindingPath traceBinding
    cases tracked.binding.kind with
    | external => rfl
    | loopItem span => exact congrArg pathOrUnrepresentable (htrace _)
    | ordinary => exact congrArg pathOrUnrepresentable (htrace _)
  unfold liveBinding?
  rw [hpath]
  rfl

omit hlaid hfirst hsecond in
theorem aliases_withMaxSteps (bound : Nat) (call : Span) (method : Method Site)
    (paths : List (Expr Site × Path)) :
    (analysis.withMaxSteps bound).aliases call method paths =
      analysis.aliases call method paths := by
  induction paths with
  | nil => rfl
  | cons entry rest ih =>
      rw [aliases, aliases, ih]
      rfl

theorem checkCall_eq_of_length_le {site : Site} {id : MethodId}
    {args : List (PassMode × Expr Site)} {ty : TypeId}
    (hcall : Expr.call site id args ty ∈ analysis.body.exprs) :
    (analysis.withMaxSteps first).checkCall (.call site id args ty) =
      (analysis.withMaxSteps second).checkCall (.call site id args ty) := by
  have htrace : ∀ argument ∈ refArguments args, (analysis.withMaxSteps first).trace argument none =
      (analysis.withMaxSteps second).trace argument none := by
    intro argument hargument
    refine trace_eq_of_length_le hlaid hfirst hsecond ?_ none
    rw [Body.mem_exprs_iff] at hcall ⊢
    exact argument_mem_nodes hcall hargument
  have huntraceable : (analysis.withMaxSteps first).untraceable (refArguments args) =
      (analysis.withMaxSteps second).untraceable (refArguments args) := by
    refine List.filterMap_congr fun argument hargument => ?_
    rw [htrace argument hargument]
    rfl
  have htraced : (analysis.withMaxSteps first).tracedArguments (refArguments args) =
      (analysis.withMaxSteps second).tracedArguments (refArguments args) := by
    refine List.filterMap_congr fun argument hargument => ?_
    rw [htrace argument hargument]
  have hinvalidations : ∀ method paths,
      (analysis.withMaxSteps first).invalidations site.span method paths =
        (analysis.withMaxSteps second).invalidations site.span method paths := by
    intro method paths
    unfold invalidations
    rw [liveAt_eq_of_length_le hlaid hfirst hsecond]
    rfl
  simp only [checkCall, huntraceable, htraced, hinvalidations, aliases_withMaxSteps]
  rfl

theorem findings_eq_of_length_le :
    (analysis.withMaxSteps first).findings = (analysis.withMaxSteps second).findings := by
  refine List.flatMap_congr fun node hnode => ?_
  cases node with
  | expr expr =>
      cases expr with
      | call site id args ty =>
          apply checkCall_eq_of_length_le hlaid hfirst hsecond
          exact (Body.mem_exprs_iff _ _).mpr hnode
      | _ => rfl
  | stmt stmt =>
      cases stmt with
      | ret site value =>
          cases value with
          | none => rfl
          | some value =>
              have hvalue : value ∈ analysis.body.exprs :=
                (Body.mem_exprs_iff _ _).mpr
                  (Body.mem_nodes_of_part hnode (List.mem_singleton_self _))
              have htrace := trace_eq_of_length_le hlaid hfirst hsecond hvalue none
              simp only [checkNode, checkReturn?, path, htrace]
              rfl
      | _ => rfl

end Enough

/-- The second analysis reports whatever the first one reports of invalidated references, shared
storage and escapes, in the same words, and leaves no more arguments untraced. -/
structure UncoveredBy (less more : Analysis) : Prop where
  findings_less : less.findings = less.problems.map less.finding
  findings_more : more.findings = more.problems.map more.finding
  problems : ∀ rule, rule ≠ .unverifiableReference →
    (less.problems.filter fun problem => problem.rule = rule).Sublist
      (more.problems.filter fun problem => problem.rule = rule)
  words : ∀ problem ∈ less.problems, problem.rule ≠ .unverifiableReference →
    more.finding problem = less.finding problem
  untraced : (more.problems.filterMap Problem.untraced?).Sublist
    (less.problems.filterMap Problem.untraced?)

theorem withMaxSteps_uncoveredBy (hle : fewer ≤ more) :
    (analysis.withMaxSteps fewer).UncoveredBy (analysis.withMaxSteps more) where
  findings_less := findings_eq_map_problems _
  findings_more := findings_eq_map_problems _
  problems := fun _ hrule => problems_sublist hle hrule
  words := fun _ hproblem _ => finding_eq_of_le hle (allows_of_mem_problems hproblem)
  untraced := untraced_sublist hle

end Analysis

/-- Raising the bound on tracing only uncovers problems, and no bound changes anything once it is as
large as the body. -/
theorem more_steps_uncover {document : Document.Program} {analysis : Analysis}
    (hlower : document.lower = .ok analysis.program)
    (hbody : analysis.body ∈ analysis.program.bodies) :
    (∀ fewer more, fewer ≤ more →
      (analysis.withMaxSteps fewer).UncoveredBy (analysis.withMaxSteps more)) ∧
    ∀ first second, analysis.body.exprs.length ≤ first → analysis.body.exprs.length ≤ second →
      (analysis.withMaxSteps first).findings = (analysis.withMaxSteps second).findings :=
  ⟨fun _ _ hle => Analysis.withMaxSteps_uncoveredBy hle, fun _ _ hfirst hsecond =>
    Analysis.findings_eq_of_length_le (Document.Program.lower_laid hlower hbody) hfirst hsecond⟩

/-- With one step only the item of the loop is traced to the list; with as many steps as there are
expressions the reference into the list is too. -/
theorem more_steps_uncover_list : ∃ analysis : Analysis,
    listDocument.lower = .ok analysis.program ∧ analysis.body ∈ analysis.program.bodies ∧
      (analysis.withMaxSteps 1).UncoveredBy (analysis.withMaxSteps 11) ∧
      (analysis.withMaxSteps 1).problems.length = 1 ∧
      (analysis.withMaxSteps 11).problems.length = 2 ∧ analysis.body.exprs.length = 11 ∧
      (analysis.withMaxSteps 11).findings = (analysis.withMaxSteps 256).findings := by
  have hany : listDocument.anyBody (fun program body =>
      ((Analysis.mk program body (.ofProgram program) 1).withMaxSteps 1).problems.length == 1 &&
      ((Analysis.mk program body (.ofProgram program) 1).withMaxSteps 11).problems.length == 2 &&
      body.exprs.length == 11) = true := by
    decide +kernel
  obtain ⟨program, body, hlower, hbody, htest⟩ := Document.Program.exists_of_anyBody hany
  simp only [Bool.and_eq_true, beq_iff_eq] at htest
  obtain ⟨⟨hfew, hmany⟩, hlength⟩ := htest
  have hsteps :=
    @more_steps_uncover listDocument ⟨program, body, .ofProgram program, 1⟩ hlower hbody
  have hsame := hsteps.2 11 256 (Nat.le_of_eq hlength)
    (Nat.le_trans (Nat.le_of_eq hlength) (by decide))
  exact ⟨⟨program, body, .ofProgram program, 1⟩, hlower, hbody, hsteps.1 1 11 (by decide), hfew,
    hmany, hlength, hsame⟩

end RefStability
