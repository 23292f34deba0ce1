import RefStability.Lint.Linter
import RefStability.Proofs.Liveness

/-!
# Problems

A finding is a text about some nodes of a body. A problem is the nodes themselves: the call, the
argument and the binding that a resize may invalidate, or the two arguments that may share storage.
The findings of a body are its problems, each put into words, so that two analyses can be compared
by their problems where the words differ.
-/

namespace RefStability

inductive Problem where
  | untraceable (argument : Expr Site) (failure : TraceFailure)
  | invalidation (call argument : Expr Site) (victim : Binding)
  | sharing (call first second : Expr Site)
  | escape (statement : Stmt Site) (value : Expr Site)

/-- The rule that selects the findings of a problem. -/
def Problem.rule : Problem → Rule
  | .untraceable _ _ => .unverifiableReference
  | .invalidation _ _ _ => .resizeInvalidatesReference
  | .sharing _ _ _ => .aliasedDynamicArguments
  | .escape _ _ => .scopedReferenceEscape

/-- Every two entries of a list, in order. -/
def orderedPairs {α : Type} : List α → List (α × α)
  | [] => []
  | first :: rest => rest.map (fun second => (first, second)) ++ orderedPairs rest

theorem orderedPairs_map {α β : Type} (f : α → β) (values : List α) :
    orderedPairs (values.map f) = (orderedPairs values).map (Prod.map f f) := by
  induction values with
  | nil => rfl
  | cons first rest ih =>
      simp only [List.map_cons, orderedPairs, ih, List.map_append, List.map_map]
      rfl

namespace Analysis

variable (analysis : Analysis)

/-- A resize of what the argument leads to may move what the binding leads to. -/
def mayMove (argument : Expr Site) (victim : Binding) : Bool :=
  (analysis.path argument none).canInvalidate (analysis.bindingPath victim)

def mayShare (first second : Expr Site) : Bool :=
  (analysis.path first none).canAlias (analysis.path second none) ||
    (analysis.path second none).canAlias (analysis.path first none)

def untraceableProblems (arguments : List (Expr Site)) : List Problem :=
  arguments.filterMap fun argument =>
    match analysis.trace argument none with
    | .ok _ => none
    | .error failure => some (.untraceable argument failure)

def invalidationProblems (call : Expr Site) (arguments : List (Expr Site)) : List Problem :=
  arguments.flatMap fun argument =>
    (((analysis.liveAt call.span.start).map LiveBinding.binding).filter
      (analysis.mayMove argument)).map (.invalidation call argument)

def sharingProblems (call : Expr Site) (arguments : List (Expr Site)) : List Problem :=
  ((orderedPairs arguments).filter fun pair => analysis.mayShare pair.1 pair.2).map fun pair =>
    .sharing call pair.1 pair.2

/-- The problems of one kind that a call has with the arguments it passes by reference. -/
def callProblemsOf (call : Expr Site) (id : MethodId) (method : Method Site)
    (arguments : List (Expr Site)) : Rule → List Problem
  | .unverifiableReference => analysis.untraceableProblems arguments
  | .resizeInvalidatesReference =>
    if analysis.isReferenceHelper id method then []
    else analysis.invalidationProblems call arguments
  | .aliasedDynamicArguments => analysis.sharingProblems call arguments
  | .scopedReferenceEscape => []

def callProblems (call : Expr Site) (id : MethodId) (method : Method Site)
    (arguments : List (Expr Site)) : List Problem :=
  analysis.callProblemsOf call id method arguments .unverifiableReference ++
    analysis.callProblemsOf call id method arguments .resizeInvalidatesReference ++
    analysis.callProblemsOf call id method arguments .aliasedDynamicArguments

def nodeProblems : Node Site → List Problem
  | .expr (.call site id args ty) =>
    match analysis.program.methods[id]? with
    | none => []
    | some method =>
      analysis.callProblems (.call site id args ty) id method (refArguments args)
  | .stmt (.ret site (some value)) =>
    if analysis.returnsRef && (analysis.path value none).isScoped then
      [.escape (.ret site (some value)) value]
    else []
  | _ => []

def problems : List Problem := analysis.body.nodes.flatMap analysis.nodeProblems

/-! ### Problems in words -/

def calleeSignature : Expr Site → String
  | .call _ id _ _ => ((analysis.program.methods[id]?).map (·.signature)).getD ""
  | _ => ""

def localName (target : LocalId) : String :=
  ((analysis.body.locals[target]?).map (·.name)).getD ""

def finding : Problem → Finding
  | .untraceable argument failure =>
    .unverifiable (analysis.locate argument.span) failure.message
  | .invalidation call argument victim =>
    .invalidatedReference (analysis.locate call.span) (analysis.calleeSignature call)
      (analysis.path argument none).render (analysis.localName victim.target)
      (analysis.bindingPath victim).render (analysis.locate victim.span)
  | .sharing call first second =>
    .aliasedArguments (analysis.locate call.span) (analysis.calleeSignature call)
      (analysis.path first none).render (analysis.path second none).render
      (analysis.locate second.span)
  | .escape statement value =>
    .escapesScope (analysis.locate statement.span) (analysis.path value none).render

end Analysis

/-! ### What cannot be traced takes no part -/

namespace Path

theorem canInvalidate_unrepresentable (victim : Path) :
    unrepresentable.canInvalidate victim = false := rfl

theorem relation_unrepresentable (path : Path) :
    unrepresentable.relation path = .unrelated ∧ path.relation unrepresentable = .unrelated := by
  have hroot : unrepresentable.root? = none := rfl
  unfold relation
  rw [hroot]
  exact ⟨rfl, by cases path.root? <;> rfl⟩

theorem canAlias_unrepresentable (path : Path) :
    unrepresentable.canAlias path = false ∧ path.canAlias unrepresentable = false := by
  obtain ⟨hleft, hright⟩ := relation_unrepresentable path
  constructor
  · simp only [canAlias, hleft, Bool.and_false]
  · simp only [canAlias, hright, Bool.and_false]

theorem isAnchor_of_canInvalidate {mutator victim : Path}
    (hinvalidate : mutator.canInvalidate victim = true) : mutator.isAnchor = true :=
  (Bool.and_eq_true_iff.mp hinvalidate).1

end Path

namespace Analysis

variable {analysis : Analysis} {expr : Expr Site} {elementType : Option TypeId}

theorem path_of_trace {path : Path} (htrace : analysis.trace expr elementType = .ok path) :
    analysis.path expr elementType = path := by
  rw [Analysis.path, htrace, pathOrUnrepresentable]

theorem path_of_failure {failure : TraceFailure}
    (htrace : analysis.trace expr elementType = .error failure) :
    analysis.path expr elementType = .unrepresentable := by
  rw [Analysis.path, htrace, pathOrUnrepresentable]

theorem tracedArguments_cons_of_ok {path : Path} (rest : List (Expr Site))
    (htrace : analysis.trace expr none = .ok path) :
    analysis.tracedArguments (expr :: rest) = (expr, path) :: analysis.tracedArguments rest := by
  rw [tracedArguments, List.filterMap_cons, htrace]
  rfl

theorem tracedArguments_cons_of_error {failure : TraceFailure} (rest : List (Expr Site))
    (htrace : analysis.trace expr none = .error failure) :
    analysis.tracedArguments (expr :: rest) = analysis.tracedArguments rest := by
  rw [tracedArguments, List.filterMap_cons, htrace]
  rfl

theorem argument_mem_nodes {body : Body Site} {site : Site} {id : MethodId}
    {args : List (PassMode × Expr Site)} {ty : TypeId} {argument : Expr Site}
    (hcall : Node.expr (.call site id args ty) ∈ body.nodes)
    (hargument : argument ∈ refArguments args) : Node.expr argument ∈ body.nodes := by
  obtain ⟨⟨mode, expr⟩, hmem, heq⟩ := List.mem_filterMap.mp hargument
  rw [Option.ite_none_right_eq_some, Option.some.injEq] at heq
  obtain ⟨rfl, rfl⟩ := heq
  exact Body.mem_nodes_of_part hcall (List.mem_map_of_mem (List.mem_map_of_mem hmem))

variable (analysis)

/-! ### Findings are problems in words -/

theorem untraceable_eq (arguments : List (Expr Site)) :
    analysis.untraceable arguments =
      (analysis.untraceableProblems arguments).map analysis.finding := by
  rw [untraceable, untraceableProblems, List.map_filterMap]
  congr 1
  funext argument
  cases analysis.trace argument none <;> rfl

/-- The references that a mutator may invalidate, as a call puts them into words. -/
theorem invalidations_of_argument (site : Site) {id : MethodId}
    (args : List (PassMode × Expr Site)) (ty : TypeId) {method : Method Site}
    (hmethod : analysis.program.methods[id]? = some method) (argument : Expr Site)
    (position : Nat) :
    ((analysis.liveAt position).filter fun reference =>
        (analysis.path argument none).canInvalidate reference.path).map (fun reference =>
      .invalidatedReference (analysis.locate site.span) method.signature
        (analysis.path argument none).render reference.name reference.path.render
        (analysis.locate reference.binding.span)) =
      ((((analysis.liveAt position).map LiveBinding.binding).filter
        (analysis.mayMove argument)).map
          (Problem.invalidation (.call site id args ty) argument)).map analysis.finding := by
  rw [List.filter_map, List.map_map, List.map_map]
  have hfilter : (analysis.liveAt position).filter
        (analysis.mayMove argument ∘ LiveBinding.binding) =
      (analysis.liveAt position).filter fun reference =>
        (analysis.path argument none).canInvalidate reference.path := by
    refine List.filter_congr fun reference hreference => ?_
    obtain ⟨_, hpath, _⟩ := of_mem_liveAt hreference
    rw [Function.comp_apply, mayMove, hpath]
  rw [hfilter]
  refine List.map_congr_left fun reference hreference => ?_
  obtain ⟨_, hpath, declared, hdeclared, hname⟩ :=
    of_mem_liveAt (List.mem_filter.mp hreference).1
  simp only [Function.comp_apply, finding, calleeSignature, localName, hmethod, hdeclared,
    hpath, hname, Option.map_some, Option.getD_some]
  rfl

theorem invalidations_cons (call : Span) (method : Method Site) (argument : Expr Site)
    (mutator : Path) (rest : List (Expr Site × Path)) :
    analysis.invalidations call method ((argument, mutator) :: rest) =
      ((analysis.liveAt call.start).filter fun reference =>
          mutator.canInvalidate reference.path).map (fun reference =>
        .invalidatedReference (analysis.locate call) method.signature mutator.render
          reference.name reference.path.render (analysis.locate reference.binding.span)) ++
        analysis.invalidations call method rest := by
  unfold invalidations
  by_cases hanchor : mutator.isAnchor = true
  · simp only [List.filter_cons, hanchor, if_true, List.flatMap_cons]
  · have hnone : (analysis.liveAt call.start).filter (fun reference =>
        mutator.canInvalidate reference.path) = [] := by
      refine List.filter_eq_nil_iff.mpr fun reference _ hinvalidate => ?_
      exact hanchor (Path.isAnchor_of_canInvalidate hinvalidate)
    rw [hnone, List.map_nil, List.nil_append]
    simp only [List.filter_cons, hanchor, Bool.false_eq_true, if_false]

theorem invalidations_eq (site : Site) {id : MethodId} (args : List (PassMode × Expr Site))
    (ty : TypeId) {method : Method Site} (hmethod : analysis.program.methods[id]? = some method)
    (arguments : List (Expr Site)) :
    analysis.invalidations site.span method (analysis.tracedArguments arguments) =
      (analysis.invalidationProblems (.call site id args ty) arguments).map analysis.finding := by
  induction arguments with
  | nil => rfl
  | cons argument rest ih =>
      have hargument := analysis.invalidations_of_argument site args ty hmethod argument
        site.span.start
      rw [invalidationProblems, List.flatMap_cons, List.map_append]
      change _ = _ ++ (analysis.invalidationProblems (.call site id args ty) rest).map _
      rw [← ih]
      -- An argument that cannot be traced is left out of the findings; as a problem it has the
      -- path of nothing, which moves nothing.
      cases htrace : analysis.trace argument none with
      | ok mutator =>
          rw [path_of_trace htrace] at hargument
          rw [tracedArguments_cons_of_ok rest htrace, invalidations_cons, hargument]
          rfl
      | error failure =>
          have hnone : ((analysis.liveAt (Expr.call site id args ty).span.start).map
              LiveBinding.binding).filter (analysis.mayMove argument) = [] := by
            refine List.filter_eq_nil_iff.mpr fun victim _ => ?_
            rw [mayMove, path_of_failure htrace, Path.canInvalidate_unrepresentable]
            exact Bool.false_ne_true
          rw [tracedArguments_cons_of_error rest htrace, hnone]
          rfl

/-- The second arguments that may share storage with a first one, as a call puts them into
words. -/
theorem aliases_of_argument (site : Site) {id : MethodId} (args : List (PassMode × Expr Site))
    (ty : TypeId) {method : Method Site} (hmethod : analysis.program.methods[id]? = some method)
    (first : Expr Site) (arguments : List (Expr Site)) :
    ((analysis.tracedArguments arguments).filter fun entry =>
        (analysis.path first none).canAlias entry.2 ||
          entry.2.canAlias (analysis.path first none)).map (fun entry =>
      .aliasedArguments (analysis.locate site.span) method.signature
        (analysis.path first none).render entry.2.render (analysis.locate entry.1.span)) =
      ((arguments.filter (analysis.mayShare first)).map
        (Problem.sharing (.call site id args ty) first)).map analysis.finding := by
  induction arguments with
  | nil => rfl
  | cons second rest ih =>
      cases htrace : analysis.trace second none with
      | ok path =>
          have hpath := path_of_trace htrace
          rw [tracedArguments_cons_of_ok rest htrace, List.filter_cons, List.filter_cons, mayShare,
            hpath]
          split
          · rw [List.map_cons, List.map_cons, List.map_cons, ih, finding, calleeSignature, hmethod,
              hpath]
            rfl
          · exact ih
      | error failure =>
          obtain ⟨hleft, hright⟩ := Path.canAlias_unrepresentable (analysis.path first none)
          rw [tracedArguments_cons_of_error rest htrace, List.filter_cons, mayShare,
            path_of_failure htrace, hleft, hright]
          exact ih

theorem aliases_eq (site : Site) {id : MethodId} (args : List (PassMode × Expr Site))
    (ty : TypeId) {method : Method Site} (hmethod : analysis.program.methods[id]? = some method)
    (arguments : List (Expr Site)) :
    analysis.aliases site.span method (analysis.tracedArguments arguments) =
      (analysis.sharingProblems (.call site id args ty) arguments).map analysis.finding := by
  induction arguments with
  | nil => rfl
  | cons first rest ih =>
      have hfirst := analysis.aliases_of_argument site args ty hmethod first rest
      have hproblems : analysis.sharingProblems (.call site id args ty) (first :: rest) =
          (rest.filter (analysis.mayShare first)).map
            (Problem.sharing (.call site id args ty) first) ++
          analysis.sharingProblems (.call site id args ty) rest := by
        rw [sharingProblems, orderedPairs, List.filter_append, List.map_append, List.filter_map,
          List.map_map]
        rfl
      rw [hproblems, List.map_append, ← ih, ← hfirst]
      cases htrace : analysis.trace first none with
      | ok path =>
          rw [tracedArguments_cons_of_ok rest htrace, aliases, path_of_trace htrace]
      | error failure =>
          have hnone : (analysis.tracedArguments rest).filter (fun entry =>
              (analysis.path first none).canAlias entry.2 ||
                entry.2.canAlias (analysis.path first none)) = [] := by
            refine List.filter_eq_nil_iff.mpr fun entry _ => ?_
            obtain ⟨hleft, hright⟩ := Path.canAlias_unrepresentable entry.2
            rw [path_of_failure htrace, hleft, hright]
            exact Bool.false_ne_true
          rw [tracedArguments_cons_of_error rest htrace, hnone, List.map_nil, List.nil_append]

theorem checkNode_eq (node : Node Site) :
    analysis.checkNode node = (analysis.nodeProblems node).map analysis.finding := by
  cases node with
  | stmt stmt =>
      cases stmt with
      | ret site value =>
          cases value with
          | none => rfl
          | some value =>
              simp only [checkNode, checkReturn?, nodeProblems]
              split <;> rfl
      | _ => rfl
  | expr expr =>
      cases expr with
      | call site id args ty =>
          simp only [checkNode, checkCall, nodeProblems]
          cases hmethod : analysis.program.methods[id]? with
          | none => rfl
          | some method =>
              simp only [callProblems, callProblemsOf, List.map_append, analysis.untraceable_eq,
                analysis.invalidations_eq site args ty hmethod,
                analysis.aliases_eq site args ty hmethod]
              split <;> rfl
      | _ => rfl

/-- The findings of a body are its problems in words, in the same order. -/
theorem findings_eq_map_problems : analysis.findings = analysis.problems.map analysis.finding := by
  rw [findings, problems, List.map_flatMap]
  congr 1
  funext node
  exact analysis.checkNode_eq node

theorem selects_finding (rule : Rule) (problem : Problem) :
    rule.selects (analysis.finding problem) = decide (problem.rule = rule) := by
  cases rule <;> cases problem <;> rfl

theorem filter_selects_findings (rule : Rule) :
    analysis.findings.filter rule.selects =
      (analysis.problems.filter fun problem => problem.rule = rule).map analysis.finding := by
  rw [findings_eq_map_problems, List.filter_map]
  congr 2
  funext problem
  exact analysis.selects_finding rule problem

/-! ### The kinds of problems of a call -/

section Kinds

variable {analysis} {call : Expr Site} {id : MethodId} {method : Method Site}
  {arguments : List (Expr Site)}

theorem rule_of_mem_callProblemsOf {rule : Rule} {problem : Problem}
    (hproblem : problem ∈ analysis.callProblemsOf call id method arguments rule) :
    problem.rule = rule := by
  cases rule with
  | unverifiableReference =>
      obtain ⟨argument, _, hargument⟩ := List.mem_filterMap.mp hproblem
      split at hargument
      · cases hargument
      · cases hargument
        rfl
  | resizeInvalidatesReference =>
      rw [callProblemsOf] at hproblem
      split at hproblem
      · cases hproblem
      · obtain ⟨argument, _, hargument⟩ := List.mem_flatMap.mp hproblem
        obtain ⟨victim, _, rfl⟩ := List.mem_map.mp hargument
        rfl
  | aliasedDynamicArguments =>
      obtain ⟨pair, _, rfl⟩ := List.mem_map.mp hproblem
      rfl
  | scopedReferenceEscape => cases hproblem

theorem filter_callProblemsOf (own rule : Rule) :
    ((analysis.callProblemsOf call id method arguments own).filter fun problem =>
        problem.rule = rule) =
      if own = rule then analysis.callProblemsOf call id method arguments own else [] := by
  split
  · rename_i heq
    exact List.filter_eq_self.mpr fun problem hproblem =>
      decide_eq_true ((rule_of_mem_callProblemsOf hproblem).trans heq)
  · rename_i hne
    exact List.filter_eq_nil_iff.mpr fun problem hproblem hrule =>
      hne ((rule_of_mem_callProblemsOf hproblem).symm.trans (of_decide_eq_true hrule))

/-- A call has its problems kind by kind. -/
theorem filter_callProblems (rule : Rule) :
    ((analysis.callProblems call id method arguments).filter fun problem => problem.rule = rule) =
      analysis.callProblemsOf call id method arguments rule := by
  rw [callProblems, List.filter_append, List.filter_append, filter_callProblemsOf,
    filter_callProblemsOf, filter_callProblemsOf]
  cases rule <;> simp [callProblemsOf]

end Kinds

end Analysis

end RefStability
