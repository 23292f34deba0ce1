import Mathlib.Data.List.ProdSigma
import RefStability.Proofs.Independence

/-!
# Diagnostics are findings under rules

Every diagnostic of a method is one finding under one rule in force that is about its kind, and
every such pair gives one diagnostic. They are sorted by where they start, method by method. Since a
finding lies in the body that it is about, and bodies follow each other, the diagnostics of a whole
program are in order too.
-/

namespace RefStability

/-- The one rule that is about findings of this kind. -/
def Finding.rule : Finding → Rule
  | .invalidatedReference _ _ _ _ _ _ => .resizeInvalidatesReference
  | .aliasedArguments _ _ _ _ _ => .aliasedDynamicArguments
  | .unverifiable _ _ => .unverifiableReference
  | .escapesScope _ _ => .scopedReferenceEscape

theorem Rule.selects_eq (rule : Rule) (finding : Finding) :
    rule.selects finding = decide (finding.rule = rule) := by
  cases rule <;> cases finding <;> rfl

/-! ### What is reported -/

namespace Linter

variable (rules : List ActiveRule) (signature : String)

theorem report_cons_perm (finding : Finding) (rest : List Finding) :
    (report rules signature (finding :: rest)).Perm
      ((rules.filter fun active => finding.rule = active.rule).map
          (fun active => active.diagnose signature finding) ++
        report rules signature rest) := by
  have hown : (rules.filter fun active => finding.rule = active.rule).map
        (fun active => active.diagnose signature finding) =
      rules.flatMap fun active => active.report signature [finding] := by
    induction rules with
    | nil => rfl
    | cons active others ih =>
        rw [List.flatMap_cons, ← ih, ActiveRule.report, List.filter_singleton,
          Rule.selects_eq, List.filter_cons]
        by_cases hrule : finding.rule = active.rule
        · simp [hrule]
        · simp [hrule]
  have hsplit : report rules signature (finding :: rest) =
      rules.flatMap fun active =>
        active.report signature [finding] ++ active.report signature rest := by
    refine List.flatMap_congr fun active _ => ?_
    rw [ActiveRule.report, ActiveRule.report, ActiveRule.report, ← List.map_append,
      ← List.filter_append, List.singleton_append]
  rw [hown, hsplit]
  exact (List.flatMap_append_perm rules _ _).symm

/-- The rules report each finding once for every rule that is about it. -/
theorem report_perm_product (findings : List Finding) :
    (report rules signature findings).Perm
      (((findings ×ˢ rules).filter fun pair => pair.1.rule = pair.2.rule).map fun pair =>
        pair.2.diagnose signature pair.1) := by
  induction findings with
  | nil =>
      have hnone : report rules signature [] = [] := List.flatMap_eq_nil_iff.mpr fun _ _ => rfl
      rw [hnone]
      exact List.Perm.nil
  | cons finding rest ih =>
      rw [List.product_cons, List.filter_append, List.map_append, List.filter_map, List.map_map]
      exact (report_cons_perm rules signature finding rest).trans (ih.append_left _)

theorem mem_report_iff {findings : List Finding} {diagnostic : Diagnostic} :
    diagnostic ∈ report rules signature findings ↔
      ∃ finding ∈ findings, ∃ active ∈ rules, finding.rule = active.rule ∧
        active.diagnose signature finding = diagnostic := by
  simp only [report, ActiveRule.report, List.mem_flatMap, List.mem_map, List.mem_filter,
    Rule.selects_eq, decide_eq_true_eq]
  constructor
  · rintro ⟨active, hactive, finding, ⟨hfinding, hrule⟩, hdiagnose⟩
    exact ⟨finding, hfinding, active, hactive, hrule, hdiagnose⟩
  · rintro ⟨finding, hfinding, active, hactive, hrule, hdiagnose⟩
    exact ⟨active, hactive, finding, ⟨hfinding, hrule⟩, hdiagnose⟩

theorem filter_report (keep : Location → Bool) (findings : List Finding) :
    (report rules signature findings).filter (fun diagnostic => keep diagnostic.location) =
      rules.flatMap fun active =>
        (findings.filter fun finding => finding.rule = active.rule && keep finding.location).map
          (active.diagnose signature) := by
  rw [report, List.filter_flatMap]
  refine List.flatMap_congr fun active _ => ?_
  rw [ActiveRule.report, List.filter_map, List.filter_filter]
  congr 2
  funext finding
  rw [Rule.selects_eq, Bool.and_comm]
  rfl

end Linter

/-! ### The sort -/

namespace Diagnostic

def startsBy (left right : Diagnostic) : Bool :=
  left.location.span.start ≤ right.location.span.start

theorem startsBy_trans (first second third : Diagnostic) (hfirst : first.startsBy second = true)
    (hsecond : second.startsBy third = true) : first.startsBy third = true :=
  decide_eq_true (Nat.le_trans (of_decide_eq_true hfirst) (of_decide_eq_true hsecond))

theorem startsBy_total (left right : Diagnostic) :
    (left.startsBy right || right.startsBy left) = true := by
  simp only [startsBy, Bool.or_eq_true, decide_eq_true_eq]
  exact Nat.le_total _ _

/-- Sorting by where diagnostics start keeps those that start at one position in their order. -/
theorem filter_start_mergeSort (diagnostics : List Diagnostic) (start : Nat) :
    (diagnostics.mergeSort startsBy).filter
        (fun diagnostic => diagnostic.location.span.start = start) =
      diagnostics.filter fun diagnostic => diagnostic.location.span.start = start := by
  set atStart : Diagnostic → Bool := fun diagnostic => diagnostic.location.span.start = start
  have hequal : (diagnostics.filter atStart).Pairwise fun left right => left.startsBy right := by
    refine List.pairwise_of_forall_mem_list fun left hleft right hright => ?_
    have hleft := of_decide_eq_true (List.mem_filter.mp hleft).2
    have hright := of_decide_eq_true (List.mem_filter.mp hright).2
    exact decide_eq_true (by omega)
  have hsublist : (diagnostics.filter atStart).Sublist (diagnostics.mergeSort startsBy) :=
    List.sublist_mergeSort startsBy_trans startsBy_total hequal List.filter_sublist
  have hkept := hsublist.filter atStart
  rw [List.filter_filter, List.filter_congr (q := atStart) (by simp)] at hkept
  have hperm := (diagnostics.mergeSort_perm startsBy).filter atStart
  exact (hkept.eq_of_length hperm.length_eq.symm).symm

end Diagnostic

/-! ### Where findings lie -/

namespace Analysis

variable {analysis : Analysis}

theorem location_of_mem_callProblems {call : Expr Site} {id : MethodId} {method : Method Site}
    {arguments : List (Expr Site)} {problem : Problem}
    (hproblem : problem ∈ analysis.callProblems call id method arguments) :
    ∃ reported ∈ call :: arguments,
      (analysis.finding problem).location = analysis.locate reported.span := by
  rw [callProblems, List.mem_append, List.mem_append] at hproblem
  rcases hproblem with (huntraceable | hinvalidation) | hsharing
  · obtain ⟨argument, hargument, hfailure⟩ := List.mem_filterMap.mp huntraceable
    refine ⟨argument, List.mem_cons_of_mem _ hargument, ?_⟩
    split at hfailure
    · cases hfailure
    · cases hfailure
      rfl
  · refine ⟨call, List.mem_cons_self, ?_⟩
    rw [callProblemsOf] at hinvalidation
    split at hinvalidation
    · cases hinvalidation
    · obtain ⟨argument, _, hargument⟩ := List.mem_flatMap.mp hinvalidation
      obtain ⟨victim, _, rfl⟩ := List.mem_map.mp hargument
      rfl
  · obtain ⟨pair, _, rfl⟩ := List.mem_map.mp hsharing
    exact ⟨call, List.mem_cons_self, rfl⟩

/-- What is found is found at a node of the body. -/
theorem exists_node_of_mem_findings {finding : Finding} (hfinding : finding ∈ analysis.findings) :
    ∃ node ∈ analysis.body.nodes, finding.location = analysis.locate node.span := by
  rw [findings_eq_map_problems] at hfinding
  obtain ⟨problem, hproblem, rfl⟩ := List.mem_map.mp hfinding
  obtain ⟨node, hnode, hproblem⟩ := List.mem_flatMap.mp hproblem
  unfold nodeProblems at hproblem
  split at hproblem
  · rename_i site id args ty
    split at hproblem
    · cases hproblem
    · obtain ⟨reported, hreported, hlocation⟩ := location_of_mem_callProblems hproblem
      refine ⟨.expr reported, ?_, hlocation⟩
      rcases List.mem_cons.mp hreported with rfl | hargument
      · exact hnode
      · exact argument_mem_nodes hnode hargument
  · split at hproblem
    · rw [List.mem_singleton.mp hproblem]
      exact ⟨_, hnode, rfl⟩
    · cases hproblem
  · cases hproblem

end Analysis

theorem Program.mem_bodies {program : Program Site} {id : MethodId} {body : Body Site}
    (hbody : (program.methods[id]?).bind (·.body) = some body) : body ∈ program.bodies := by
  obtain ⟨method, hmethod, hbody⟩ := Option.bind_eq_some_iff.mp hbody
  exact List.mem_filterMap.mpr ⟨method, List.mem_of_getElem? hmethod, hbody⟩

/-- What is found in a lowered body starts in that body. -/
theorem Document.Program.finding_inside {document : Document.Program} {analysis : Analysis}
    (hlower : document.lower = .ok analysis.program)
    (hbody : analysis.body ∈ analysis.program.bodies) {finding : Finding}
    (hfinding : finding ∈ analysis.findings) :
    analysis.body.label.span.start ≤ finding.location.span.start ∧
      finding.location.span.start ≤ analysis.body.label.span.stop := by
  obtain ⟨node, hnode, hlocation⟩ := Analysis.exists_node_of_mem_findings hfinding
  have hspan : finding.location.span = node.span := congrArg Location.span hlocation
  have hlaid := Document.Program.lower_laid hlower hbody
  have hroot : analysis.body.label.span.start < analysis.body.root.label.span.start ∧
      analysis.body.root.label.span.stop < analysis.body.label.span.stop := by
    obtain ⟨source, start, hplace, hlast⟩ := Document.Program.exists_place_of_lower hlower hbody
    rw [hplace]
    exact (source.place_inSourceOrder start hlast).root_inside
  have hinside := hlaid.below_between (Body.root_mem_nodes analysis.body)
    (by rwa [Body.nodes, Stmt.nodesBlock_eq] at hnode)
  have hstart := (hlaid.nodes_between hnode).1
  change analysis.body.root.label.span.start ≤ node.span.start ∧
    node.span.stop ≤ analysis.body.root.label.span.stop at hinside
  rw [hspan]
  omega

/-! ### The diagnostics of a method and of a program -/

namespace Linter

variable (linter : Linter) {program : Program Site} (templates : TemplateTable)

theorem lintMethod_eq_mergeSort {id : MethodId} {method : Method Site} {body : Body Site}
    (hmethod : program.methods[id]? = some method) (hbody : method.body = some body) :
    linter.lintMethod program templates id =
      (report linter.rules method.signature
        (Analysis.mk program body templates linter.maxSteps).findings).mergeSort
          Diagnostic.startsBy := by
  rw [linter.lintMethod_of_body hmethod, hbody]
  rfl

theorem lintMethod_of_bodiless {id : MethodId} {method : Method Site}
    (hmethod : program.methods[id]? = some method) (hbody : method.body = none) :
    linter.lintMethod program templates id = [] := by
  rw [linter.lintMethod_of_body hmethod, hbody]
  rfl

theorem lintMethod_pairwise (id : MethodId) :
    (linter.lintMethod program templates id).Pairwise fun earlier later =>
      earlier.startsBy later = true := by
  cases hmethod : program.methods[id]? with
  | none =>
      rw [linter.lintMethod_of_none hmethod]
      exact List.Pairwise.nil
  | some method =>
      cases hbody : method.body with
      | none =>
          rw [linter.lintMethod_of_bodiless templates hmethod hbody]
          exact List.Pairwise.nil
      | some body =>
          rw [linter.lintMethod_eq_mergeSort templates hmethod hbody]
          exact List.pairwise_mergeSort Diagnostic.startsBy_trans Diagnostic.startsBy_total _

/-- Every diagnostic is a finding in the body of its method, under a rule in force that is about
it. -/
theorem mem_lintMethod_iff {id : MethodId} {diagnostic : Diagnostic} :
    diagnostic ∈ linter.lintMethod program templates id ↔
      ∃ (method : Method Site) (body : Body Site), program.methods[id]? = some method ∧
        method.body = some body ∧
        ∃ finding ∈ (Analysis.mk program body templates linter.maxSteps).findings,
          ∃ active ∈ linter.rules, finding.rule = active.rule ∧
            active.diagnose method.signature finding = diagnostic := by
  constructor
  · intro hdiagnostic
    cases hmethod : program.methods[id]? with
    | none =>
        rw [linter.lintMethod_of_none hmethod] at hdiagnostic
        cases hdiagnostic
    | some method =>
        cases hbody : method.body with
        | none =>
            rw [linter.lintMethod_of_bodiless templates hmethod hbody] at hdiagnostic
            cases hdiagnostic
        | some body =>
            rw [linter.lintMethod_eq_mergeSort templates hmethod hbody, List.mem_mergeSort,
              mem_report_iff] at hdiagnostic
            exact ⟨method, body, rfl, hbody, hdiagnostic⟩
  · rintro ⟨method, body, hmethod, hbody, hreported⟩
    rw [linter.lintMethod_eq_mergeSort templates hmethod hbody, List.mem_mergeSort,
      mem_report_iff]
    exact hreported

/-- A diagnostic is where one of the findings in the body of its method is. -/
theorem exists_finding_of_mem_lintMethod {id : MethodId} {diagnostic : Diagnostic}
    (hdiagnostic : diagnostic ∈ linter.lintMethod program templates id) :
    ∃ body, (program.methods[id]?).bind (·.body) = some body ∧
      ∃ finding ∈ (Analysis.mk program body templates linter.maxSteps).findings,
        finding.location = diagnostic.location := by
  obtain ⟨method, body, hmethod, hbody, finding, hfinding, active, _, _, rfl⟩ :=
    (linter.mem_lintMethod_iff templates).mp hdiagnostic
  exact ⟨body, by rw [hmethod, Option.bind_some, hbody], finding, hfinding, rfl⟩

end Linter

/-- The body of a later method lies after that of an earlier one. -/
theorem Document.Program.bodies_apart {document : Document.Program}
    {program : RefStability.Program Site}
    (hlower : document.lower = .ok program) {first second : MethodId} (hlt : first < second)
    {earlier later : Body Site} (hearlier : (program.methods[first]?).bind (·.body) = some earlier)
    (hlater : (program.methods[second]?).bind (·.body) = some later) :
    earlier.label.span.stop ≤ later.label.span.start := by
  obtain ⟨resolved, _, rfl, _⟩ := Document.Program.lower_eq_ok_iff.mp hlower
  have hapart := (placeMethods_bodies resolved.methods 0).2
  rw [List.pairwise_filterMap, List.pairwise_iff_getElem] at hapart
  obtain ⟨firstMethod, hfirst, hearlier⟩ := Option.bind_eq_some_iff.mp hearlier
  obtain ⟨secondMethod, hsecond, hlater⟩ := Option.bind_eq_some_iff.mp hlater
  obtain ⟨hfirstLt, rfl⟩ := List.getElem?_eq_some_iff.mp hfirst
  obtain ⟨hsecondLt, rfl⟩ := List.getElem?_eq_some_iff.mp hsecond
  exact hapart first second hfirstLt hsecondLt hlt earlier hearlier later hlater

/-- Nothing is lost, added or out of place. For each method with a body there is one diagnostic for
every finding and every rule in force that is about its kind; those that start at one position are
in the order of the rules and, for each rule, of the findings. The diagnostics of the program are
those of its methods, one method after the other, and they are in the order of where they start. -/
theorem lint_reports_findings {document : Document.Program} {program : Program Site}
    (hlower : document.lower = .ok program) (linter : Linter) (templates : TemplateTable) :
    (∀ (id : MethodId) (method : Method Site) (body : Body Site),
      program.methods[id]? = some method → method.body = some body →
      ((linter.lintMethod program templates id).Perm
        ((((Analysis.mk program body templates linter.maxSteps).findings ×ˢ linter.rules).filter
          fun pair => pair.1.rule = pair.2.rule).map fun pair =>
            { rule := pair.2.rule.name, method := method.signature, level := pair.2.level
              message := pair.1.message, location := pair.1.location
              suggestion := some pair.2.rule.suggestion })) ∧
      ∀ start, ((linter.lintMethod program templates id).filter fun diagnostic =>
          diagnostic.location.span.start = start) =
        linter.rules.flatMap fun active =>
          ((Analysis.mk program body templates linter.maxSteps).findings.filter fun finding =>
            finding.rule = active.rule && finding.location.span.start = start).map
              (active.diagnose method.signature)) ∧
    (∀ (id : MethodId) (method : Method Site), program.methods[id]? = some method →
      method.body = none → linter.lintMethod program templates id = []) ∧
    linter.lintProgram program templates =
      (List.range program.methods.length).flatMap (linter.lintMethod program templates) ∧
    (linter.lintProgram program templates).Pairwise fun earlier later =>
      earlier.location.span.start ≤ later.location.span.start := by
  refine ⟨?_, ?_, rfl, ?_⟩
  · intro id method body hmethod hbody
    rw [linter.lintMethod_eq_mergeSort templates hmethod hbody]
    constructor
    · exact (List.mergeSort_perm _ _).trans (Linter.report_perm_product _ _ _)
    · intro start
      rw [Diagnostic.filter_start_mergeSort]
      exact Linter.filter_report _ _ (fun location => location.span.start = start) _
  · intro id method hmethod hbody
    exact linter.lintMethod_of_bodiless templates hmethod hbody
  · rw [Linter.lintProgram, List.pairwise_flatMap]
    constructor
    · intro id _
      exact (linter.lintMethod_pairwise templates id).imp of_decide_eq_true
    · refine List.pairwise_lt_range.imp fun hlt left hleft right hright => ?_
      obtain ⟨leftBody, hleftBody, leftFinding, hleftFinding, hleftLocation⟩ :=
        linter.exists_finding_of_mem_lintMethod templates hleft
      obtain ⟨rightBody, hrightBody, rightFinding, hrightFinding, hrightLocation⟩ :=
        linter.exists_finding_of_mem_lintMethod templates hright
      have hleftInside := Document.Program.finding_inside hlower
        (Program.mem_bodies hleftBody) hleftFinding
      have hrightInside := Document.Program.finding_inside hlower
        (Program.mem_bodies hrightBody) hrightFinding
      calc left.location.span.start = leftFinding.location.span.start := by rw [hleftLocation]
        _ ≤ leftBody.label.span.stop := hleftInside.2
        _ ≤ rightBody.label.span.start :=
            Document.Program.bodies_apart hlower hlt hleftBody hrightBody
        _ ≤ rightFinding.location.span.start := hrightInside.1
        _ = right.location.span.start := by rw [hrightLocation]

/-- Four rules in force, of which one stands twice. -/
def doubledLinter : Linter :=
  .withRules [⟨.scopedReferenceEscape, .info⟩, ⟨.resizeInvalidatesReference, .warning⟩,
    ⟨.unverifiableReference, .error⟩, ⟨.resizeInvalidatesReference, .error⟩]

/-- Both findings in `run` are reported by the rule that stands twice. The other two methods have no
body, so that the program has no other diagnostics. -/
theorem lint_reports_findings_list : ∃ (program : Program Site) (method : Method Site)
    (body : Body Site), listDocument.lower = .ok program ∧ program.methods[2]? = some method ∧
      method.body = some body ∧
      (Analysis.mk program body (.ofProgram program) doubledLinter.maxSteps).findings.map
        Finding.rule = [.resizeInvalidatesReference, .resizeInvalidatesReference] ∧
      (doubledLinter.lintMethod program (.ofProgram program) 2).length = 4 ∧
      doubledLinter.lintProgram program (.ofProgram program) =
        doubledLinter.lintMethod program (.ofProgram program) 2 ∧
      (doubledLinter.lintProgram program (.ofProgram program)).Pairwise fun earlier later =>
        earlier.location.span.start ≤ later.location.span.start := by
  have hany : listDocument.anyBody (fun program _ => (program.methods[2]?).any fun method =>
      method.body.any fun body =>
        (Analysis.mk program body (.ofProgram program) doubledLinter.maxSteps).findings.map
          Finding.rule == [.resizeInvalidatesReference, .resizeInvalidatesReference] &&
        program.methods.map (·.body.isSome) == [false, false, true]) = true := by
    decide +kernel
  obtain ⟨program, _, hlower, _, htest⟩ := Document.Program.exists_of_anyBody hany
  obtain ⟨method, hmethod, htest⟩ := (Option.any_eq_true _ _).mp htest
  obtain ⟨body, hbody, htest⟩ := (Option.any_eq_true _ _).mp htest
  obtain ⟨hfindings, hbodies⟩ := Bool.and_eq_true_iff.mp htest
  have hfindings := eq_of_beq hfindings
  have hbodies := eq_of_beq hbodies
  obtain ⟨hmethods, hbodiless, hprogram, hsorted⟩ :=
    lint_reports_findings hlower doubledLinter (.ofProgram program)
  refine ⟨program, method, body, hlower, hmethod, hbody, hfindings, ?_, ?_, hsorted⟩
  · have hperm := (hmethods 2 method body hmethod hbody).1
    obtain ⟨first, rest, hlist, hfirst, hrest⟩ := List.map_eq_cons_iff.mp hfindings
    obtain ⟨second, others, rfl, hsecond, hothers⟩ := List.map_eq_cons_iff.mp hrest
    rw [List.map_eq_nil_iff.mp hothers] at hlist
    rw [hperm.length_eq, List.length_map, hlist]
    simp [List.product_cons, hfirst, hsecond, doubledLinter, Linter.withRules]
  · have hlength : program.methods.length = 3 := by
      rw [← List.length_map (fun method => method.body.isSome), hbodies]
      rfl
    have hsilent : ∀ id : MethodId, [false, false, true][id]? = some false →
        doubledLinter.lintMethod program (.ofProgram program) id = [] := by
      intro id hid
      rw [← hbodies, List.getElem?_map] at hid
      obtain ⟨other, hother, hnone⟩ := Option.map_eq_some_iff.mp hid
      exact hbodiless id other hother (by simpa using hnone)
    have hrange : List.range 3 = [0, 1, 2] := rfl
    rw [hprogram, hlength, hrange, List.flatMap_cons, List.flatMap_cons, List.flatMap_singleton,
      hsilent 0 rfl, hsilent 1 rfl, List.nil_append, List.nil_append]

end RefStability
