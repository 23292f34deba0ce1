import RefStability.Command.Paths
import RefStability.Proofs.Problem
import RefStability.Proofs.ReadBack

/-!
# Rejected templates

A template that is rejected is kept in the table. A walk that comes to a call of its method fails
for another reason than without the entry, and a call of the method counts as one that hands out
references, which does not resize anything. So an entry that is rejected hides exactly the resizes
that calls of its method may make.
-/

namespace RefStability

variable {Label : Type}

/-! ### Entries of a table -/

namespace TemplateTable

variable {program : Program Label} {table other : TemplateTable} {id : MethodId}
  {signature : String}

theorem length_declare (table : TemplateTable) (signature : String) (tokens : List String) :
    (declare program table signature tokens).2.entries.length = table.entries.length := by
  unfold declare
  split
  · rfl
  · exact List.length_set

theorem length_declareAll (table : TemplateTable) (declarations : List (String × List String)) :
    (declareAll program table declarations).entries.length = table.entries.length := by
  induction declarations generalizing table with
  | nil => rfl
  | cons declaration rest ih => exact (ih _).trans (length_declare table _ _)

theorem get?_declare_of_ne (hne : program.methodNamed? signature ≠ some id)
    (tokens : List String) :
    (declare program table signature tokens).2.get? id = table.get? id := by
  unfold declare
  split
  · rfl
  · rename_i found hfound
    have hid : found ≠ id := fun heq => hne (heq ▸ hfound)
    simp only [get?, List.getElem?_set_ne hid]

theorem get?_declare {method : Method Label} (hnamed : program.methodNamed? signature = some id)
    (hmethod : program.methods[id]? = some method)
    (hlength : table.entries.length = program.methods.length) (tokens : List String) :
    (declare program table signature tokens).2.get? id =
      some (Template.parse method.params tokens) := by
  obtain ⟨hlt, _⟩ := List.getElem?_eq_some_iff.mp hmethod
  have hentry : id < table.entries.length := by
    rw [hlength]
    exact hlt
  unfold declare
  rw [hnamed]
  simp only [get?, List.getElem?_set_self hentry, hmethod, Option.elim_some, Option.join_some]

theorem get?_declareAll_of_ne {declarations : List (String × List String)}
    (hne : ∀ declaration ∈ declarations, program.methodNamed? declaration.1 ≠ some id) :
    (declareAll program table declarations).get? id = table.get? id := by
  induction declarations generalizing table with
  | nil => rfl
  | cons declaration rest ih =>
      refine (ih fun other hother => hne other (List.mem_cons_of_mem _ hother)).trans ?_
      exact get?_declare_of_ne (hne declaration List.mem_cons_self) _

/-- What a declaration makes of an entry depends on no other entry. -/
theorem get?_declare_congr (hlength : other.entries.length = table.entries.length)
    (hsame : other.get? id = table.get? id) (signature : String) (tokens : List String) :
    (declare program other signature tokens).2.get? id =
      (declare program table signature tokens).2.get? id := by
  unfold declare
  cases program.methodNamed? signature with
  | none => exact hsame
  | some found =>
      simp only [get?, List.getElem?_set, hlength]
      split
      · rfl
      · exact hsame

theorem get?_declareAll_congr (hlength : other.entries.length = table.entries.length)
    (hsame : other.get? id = table.get? id) (declarations : List (String × List String)) :
    (declareAll program other declarations).get? id =
      (declareAll program table declarations).get? id := by
  induction declarations generalizing table other with
  | nil => exact hsame
  | cons declaration rest ih =>
      refine ih ?_ (get?_declare_congr hlength hsame _ _)
      rw [length_declare, length_declare, hlength]

theorem declareAll_append (table : TemplateTable) (first second : List (String × List String)) :
    declareAll program table (first ++ second) =
      declareAll program (declareAll program table first) second :=
  List.foldl_append

/-- The second table has a rejected template for a method that has none in the first one. -/
structure Rejects (id : MethodId) (table rejecting : TemplateTable) : Prop where
  absent : table.get? id = none
  rejected : ∃ cause, rejecting.get? id = some (.error cause)
  others : ∀ other, other ≠ id → rejecting.get? other = table.get? other

end TemplateTable

/-! ### Configurations -/

/-- An entry with malformed tokens, the only one for its method, which has no template of its own
and about whose result nothing is known. -/
structure Config.RejectedEntry (config : Config) (program : Program Site) where
  before : List (String × List String)
  signature : String
  tokens : List String
  after : List (String × List String)
  id : MethodId
  method : Method Site
  cause : TemplateError
  templates_eq : config.templates = before ++ (signature, tokens) :: after
  named : program.methodNamed? signature = some id
  declared : program.methods[id]? = some method
  kind : method.kind = .plain
  path : method.path = none
  malformed : Template.parse method.params tokens = .error cause
  only : ∀ entry ∈ before ++ after, program.methodNamed? entry.1 ≠ some id

namespace Config.RejectedEntry

variable {config : Config} {program : Program Site} (entry : config.RejectedEntry program)

/-- The configuration without the entry. -/
def without : Config := { config with templates := entry.before ++ entry.after }

theorem rejects : TemplateTable.Rejects entry.id (entry.without.templatesFor program)
    (config.templatesFor program) := by
  have hbefore : ∀ declaration ∈ entry.before, program.methodNamed? declaration.1 ≠ some entry.id :=
    fun declaration hmem => entry.only declaration (List.mem_append_left _ hmem)
  have hafter : ∀ declaration ∈ entry.after, program.methodNamed? declaration.1 ≠ some entry.id :=
    fun declaration hmem => entry.only declaration (List.mem_append_right _ hmem)
  have hlength : (TemplateTable.declareAll program (.ofProgram program)
      entry.before).entries.length = program.methods.length := by
    rw [TemplateTable.length_declareAll]
    exact List.length_map _
  constructor
  · rw [templatesFor, without, TemplateTable.get?_declareAll_of_ne entry.only,
      TemplateTable.ofProgram, TemplateTable.get?, List.getElem?_map, entry.declared,
      Option.map_some, entry.path]
    rfl
  · refine ⟨entry.cause, ?_⟩
    rw [templatesFor, entry.templates_eq, TemplateTable.declareAll_append]
    refine (TemplateTable.get?_declareAll_of_ne hafter).trans ?_
    rw [TemplateTable.get?_declare entry.named entry.declared hlength, entry.malformed]
  · intro other hother
    rw [templatesFor, templatesFor, without, entry.templates_eq, TemplateTable.declareAll_append,
      TemplateTable.declareAll_append]
    refine TemplateTable.get?_declareAll_congr (TemplateTable.length_declare _ _ _) ?_ entry.after
    refine TemplateTable.get?_declare_of_ne ?_ _
    rw [entry.named]
    exact fun heq => hother (Option.some.inj heq).symm

end Config.RejectedEntry

/-! ### Walks -/

/-- The failure that takes the place of one at a call that is not modelled. -/
def TraceFailure.rejecting (signature : String) : TraceFailure → TraceFailure
  | .unmodelledCall callee =>
    if callee = signature then .rejectedTemplate callee else .unmodelledCall callee
  | failure => failure

def Problem.rejecting (signature : String) : Problem → Problem
  | .untraceable argument failure => .untraceable argument (failure.rejecting signature)
  | problem => problem

/-- The problem is what a call of the method may resize. -/
def Problem.isResizeBy (id : MethodId) : Problem → Bool
  | .invalidation (.call _ callee _ _) _ _ => callee == id
  | _ => false

theorem pathOrUnrepresentable_mapError (change : TraceFailure → TraceFailure)
    (result : Except TraceFailure Path) :
    pathOrUnrepresentable (result.mapError change) = pathOrUnrepresentable result := by
  cases result <;> rfl

theorem filter_not_isResizeBy {problems : List Problem} (id : MethodId)
    (hrule : ∀ problem ∈ problems, problem.rule ≠ .resizeInvalidatesReference) :
    (problems.filter fun problem => !problem.isResizeBy id) = problems := by
  refine List.filter_eq_self.mpr fun problem hproblem => ?_
  cases problem with
  | invalidation => exact absurd rfl (hrule _ hproblem)
  | _ => rfl

theorem map_rejecting {problems : List Problem} (signature : String)
    (hrule : ∀ problem ∈ problems, problem.rule ≠ .unverifiableReference) :
    problems.map (Problem.rejecting signature) = problems := by
  refine (List.map_congr_left fun problem hproblem => ?_).trans (List.map_id problems)
  cases problem with
  | untraceable => exact absurd rfl (hrule _ hproblem)
  | _ => rfl

namespace Analysis

def withTemplates (analysis : Analysis) (templates : TemplateTable) : Analysis :=
  { analysis with templates }

/-- The table rejects the template of a method that has none in the analysis. -/
structure Rejects (analysis : Analysis) (templates : TemplateTable) (id : MethodId)
    (method : Method Site) : Prop where
  table : TemplateTable.Rejects id analysis.templates templates
  declared : analysis.program.methods[id]? = some method
  kind : method.kind = .plain
  signatures_nodup : (analysis.program.methods.map (·.signature)).Nodup

theorem stepArgument_rejecting (signature : String) (method : Method Site)
    (args : List (PassMode × Expr Site)) (position : Nat) (trail : Trail) :
    (stepArgument method args position trail).mapError (TraceFailure.rejecting signature) =
      stepArgument method args position trail := by
  unfold stepArgument
  cases args[position]? <;> rfl

namespace Rejects

variable {analysis : Analysis} {templates : TemplateTable} {id : MethodId} {method : Method Site}
  (hrejects : analysis.Rejects templates id method)
include hrejects

theorem stepCall_eq {calleeId : MethodId} {callee : Method Site}
    (hcallee : analysis.program.methods[calleeId]? = some callee)
    (args : List (PassMode × Expr Site)) (ty : TypeId) (trail : Trail) :
    (analysis.withTemplates templates).stepCall calleeId callee args ty trail =
      (analysis.stepCall calleeId callee args ty trail).mapError
        (TraceFailure.rejecting method.signature) := by
  have hargument := stepArgument_rejecting method.signature callee args
  have htemplates : (analysis.withTemplates templates).templates = templates := rfl
  have hresizable : (analysis.withTemplates templates).isResizable ty = analysis.isResizable ty :=
    rfl
  unfold stepCall
  rw [htemplates, hresizable]
  by_cases hid : calleeId = id
  · -- The call of the method itself fails in both walks, for different reasons.
    subst hid
    cases hcallee.symm.trans hrejects.declared
    obtain ⟨cause, hrejected⟩ := hrejects.table.rejected
    rw [hrejects.kind, hrejected, hrejects.table.absent]
    simp [Except.mapError, TraceFailure.rejecting]
  · have hsignature : callee.signature ≠ method.signature := by
      intro heq
      refine hid (eq_of_getElem?_map hrejects.signatures_nodup
        (congrArg (Option.map (·.signature)) hcallee) ?_)
      rw [hrejects.declared, Option.map_some, ← heq]
    rw [hrejects.table.others calleeId hid]
    cases callee.kind with
    | elementAccessor => exact (hargument 0 _).symm
    | viewConversion => exact (hargument 0 _).symm
    | slice =>
        cases analysis.templates.get? calleeId with
        | none => exact (hargument 0 trail).symm
        | some parsed =>
            cases parsed with
            | error cause => rfl
            | ok template => exact (hargument template.rootIndex _).symm
    | plain =>
        cases analysis.templates.get? calleeId with
        | none => simp [Except.mapError, TraceFailure.rejecting, hsignature]
        | some parsed =>
            cases parsed with
            | error cause => rfl
            | ok template => exact (hargument template.rootIndex _).symm

theorem step_eq (trail : Trail) (expr : Expr Site) :
    (analysis.withTemplates templates).step trail expr =
      (analysis.step trail expr).mapError (TraceFailure.rejecting method.signature) := by
  cases expr with
  | localVar site target =>
      have hbody : (analysis.withTemplates templates).body = analysis.body := rfl
      rw [step, step, hbody]
      cases analysis.body.locals[target]? with
      | none => rfl
      | some declared =>
          simp only [stepLocal, hbody]
          cases declared.kind with
          | value => rfl
          | scopeHandle => rfl
          | ref =>
              cases analysis.body.resolve? (.localVar site target) with
              | none => rfl
              | some binding => cases hbinding : binding.kind <;> simp only [hbinding] <;> rfl
  | param site target =>
      have hbody : (analysis.withTemplates templates).body = analysis.body := rfl
      rw [step, step, hbody]
      cases analysis.body.params[target]? <;> rfl
  | call site calleeId args ty =>
      have hprogram : (analysis.withTemplates templates).program = analysis.program := rfl
      rw [step, step, hprogram]
      cases hcallee : analysis.program.methods[calleeId]? with
      | none => rfl
      | some callee => exact hrejects.stepCall_eq hcallee args ty trail
  | _ => rfl

/-- The rejected entry changes nothing about a walk but the reason for which it may fail. -/
theorem walk_eq (steps : Nat) (trail : Trail) (expr : Expr Site) :
    (analysis.withTemplates templates).walk steps trail expr =
      (analysis.walk steps trail expr).mapError (TraceFailure.rejecting method.signature) := by
  induction steps generalizing trail expr with
  | zero => rfl
  | succ steps ih =>
      rw [walk, walk, hrejects.step_eq]
      cases analysis.step trail expr with
      | error failure => rfl
      | ok result =>
          obtain ⟨longer, next⟩ := result
          cases next with
          | none => rfl
          | some next => exact ih longer next

theorem trace_eq (expr : Expr Site) (elementType : Option TypeId) :
    (analysis.withTemplates templates).trace expr elementType =
      (analysis.trace expr elementType).mapError (TraceFailure.rejecting method.signature) :=
  hrejects.walk_eq _ _ expr

theorem path_eq (expr : Expr Site) (elementType : Option TypeId) :
    (analysis.withTemplates templates).path expr elementType = analysis.path expr elementType := by
  rw [path, hrejects.trace_eq, pathOrUnrepresentable_mapError, path]

theorem bindingPath_eq (binding : Binding) :
    (analysis.withTemplates templates).bindingPath binding = analysis.bindingPath binding := by
  have hpath := hrejects.path_eq binding.producer
  unfold bindingPath traceBinding
  cases binding.kind with
  | external => rfl
  | loopItem span => exact hpath _
  | ordinary => exact hpath none

/-! ### Problems -/

theorem map_binding_liveAt_eq (position : Nat) :
    ((analysis.withTemplates templates).liveAt position).map LiveBinding.binding =
      (analysis.liveAt position).map LiveBinding.binding := by
  rw [map_binding_liveAt, map_binding_liveAt]
  refine List.filter_congr fun binding _ => ?_
  rw [hrejects.bindingPath_eq]
  rfl

theorem untraceableProblems_eq (arguments : List (Expr Site)) :
    (analysis.withTemplates templates).untraceableProblems arguments =
      (analysis.untraceableProblems arguments).map (Problem.rejecting method.signature) := by
  rw [untraceableProblems, untraceableProblems, List.map_filterMap]
  refine List.filterMap_congr fun argument _ => ?_
  rw [hrejects.trace_eq]
  cases analysis.trace argument none <;> rfl

theorem invalidationProblems_eq (call : Expr Site) (arguments : List (Expr Site)) :
    (analysis.withTemplates templates).invalidationProblems call arguments =
      analysis.invalidationProblems call arguments := by
  unfold invalidationProblems
  rw [hrejects.map_binding_liveAt_eq]
  refine List.flatMap_congr fun argument _ => congrArg _ (List.filter_congr fun victim _ => ?_)
  rw [mayMove, mayMove, hrejects.path_eq, hrejects.bindingPath_eq]

theorem sharingProblems_eq (call : Expr Site) (arguments : List (Expr Site)) :
    (analysis.withTemplates templates).sharingProblems call arguments =
      analysis.sharingProblems call arguments := by
  unfold sharingProblems
  refine congrArg _ (List.filter_congr fun pair _ => ?_)
  simp only [mayShare, hrejects.path_eq]

/-- A call of the method counts as one that does not resize anything. -/
theorem isReferenceHelper_eq (calleeId : MethodId) (callee : Method Site) :
    (analysis.withTemplates templates).isReferenceHelper calleeId callee =
      (analysis.isReferenceHelper calleeId callee || calleeId == id) := by
  have htemplates : (analysis.withTemplates templates).templates = templates := rfl
  unfold isReferenceHelper
  rw [htemplates]
  by_cases hid : calleeId = id
  · subst hid
    obtain ⟨cause, hrejected⟩ := hrejects.table.rejected
    rw [hrejected]
    simp
  · rw [hrejects.table.others calleeId hid]
    simp [hid]

omit hrejects in
theorem isResizeBy_of_mem {site : Site} {calleeId : MethodId}
    {args : List (PassMode × Expr Site)} {ty : TypeId} {arguments : List (Expr Site)}
    {problem : Problem}
    (hproblem : problem ∈ analysis.invalidationProblems (.call site calleeId args ty) arguments) :
    problem.isResizeBy id = (calleeId == id) := by
  obtain ⟨argument, _, hargument⟩ := List.mem_flatMap.mp hproblem
  obtain ⟨victim, _, rfl⟩ := List.mem_map.mp hargument
  rfl

/-- Of the references that calls may invalidate, those at calls of the method are left out. -/
theorem resizes_eq (site : Site) (calleeId : MethodId) (callee : Method Site)
    (args : List (PassMode × Expr Site)) (ty : TypeId) (arguments : List (Expr Site)) :
    (analysis.withTemplates templates).callProblemsOf (.call site calleeId args ty) calleeId callee
        arguments .resizeInvalidatesReference =
      (analysis.callProblemsOf (.call site calleeId args ty) calleeId callee arguments
        .resizeInvalidatesReference).filter fun problem => !problem.isResizeBy id := by
  rw [callProblemsOf, callProblemsOf, hrejects.isReferenceHelper_eq,
    hrejects.invalidationProblems_eq]
  cases analysis.isReferenceHelper calleeId callee with
  | true => rfl
  | false =>
      rw [Bool.false_or, if_neg Bool.false_ne_true]
      by_cases hid : calleeId = id
      · rw [if_pos (beq_iff_eq.mpr hid), eq_comm, List.filter_eq_nil_iff]
        intro problem hproblem
        rw [isResizeBy_of_mem hproblem, beq_iff_eq.mpr hid]
        exact Bool.false_ne_true
      · rw [if_neg (mt beq_iff_eq.mp hid), eq_comm, List.filter_eq_self]
        intro problem hproblem
        rw [isResizeBy_of_mem hproblem, beq_eq_false_iff_ne.mpr hid]
        rfl

theorem callProblemsOf_eq (site : Site) (calleeId : MethodId) (callee : Method Site)
    (args : List (PassMode × Expr Site)) (ty : TypeId) (arguments : List (Expr Site))
    (rule : Rule) :
    (analysis.withTemplates templates).callProblemsOf (.call site calleeId args ty) calleeId callee
        arguments rule =
      ((analysis.callProblemsOf (.call site calleeId args ty) calleeId callee arguments
        rule).filter fun problem => !problem.isResizeBy id).map
          (Problem.rejecting method.signature) := by
  have hrule : ∀ problem ∈ analysis.callProblemsOf (.call site calleeId args ty) calleeId callee
      arguments rule, problem.rule = rule := fun problem => rule_of_mem_callProblemsOf
  cases rule with
  | unverifiableReference =>
      rw [filter_not_isResizeBy id fun problem hproblem => by rw [hrule problem hproblem]; simp]
      exact hrejects.untraceableProblems_eq arguments
  | resizeInvalidatesReference =>
      rw [map_rejecting _ fun problem hproblem => by
        rw [hrule problem (List.mem_filter.mp hproblem).1]; simp]
      exact hrejects.resizes_eq site calleeId callee args ty arguments
  | aliasedDynamicArguments =>
      rw [filter_not_isResizeBy id fun problem hproblem => by rw [hrule problem hproblem]; simp,
        map_rejecting _ fun problem hproblem => by rw [hrule problem hproblem]; simp]
      exact hrejects.sharingProblems_eq _ arguments
  | scopedReferenceEscape => rfl

theorem nodeProblems_eq (node : Node Site) :
    (analysis.withTemplates templates).nodeProblems node =
      ((analysis.nodeProblems node).filter fun problem => !problem.isResizeBy id).map
        (Problem.rejecting method.signature) := by
  cases node with
  | stmt stmt =>
      cases stmt with
      | ret site value =>
          cases value with
          | none => rfl
          | some value =>
              have hreturns : (analysis.withTemplates templates).returnsRef =
                  analysis.returnsRef := rfl
              simp only [nodeProblems, hrejects.path_eq, hreturns]
              split <;> rfl
      | _ => rfl
  | expr expr =>
      cases expr with
      | call site calleeId args ty =>
          have hprogram : (analysis.withTemplates templates).program = analysis.program := rfl
          simp only [nodeProblems, hprogram]
          cases analysis.program.methods[calleeId]? with
          | none => rfl
          | some callee =>
              simp only [callProblems, List.filter_append, List.map_append,
                hrejects.callProblemsOf_eq site calleeId callee args ty]
      | _ => rfl

theorem problems_eq :
    (analysis.withTemplates templates).problems =
      (analysis.problems.filter fun problem => !problem.isResizeBy id).map
        (Problem.rejecting method.signature) := by
  rw [problems, problems, List.filter_flatMap, List.map_flatMap]
  exact List.flatMap_congr fun node _ => hrejects.nodeProblems_eq node

end Rejects

end Analysis

/-- A rejected entry silences its method: with it, the same problems are reported as without it,
except that no call of the method is reported for what it may resize; and where a walk comes to such
a call, another reason is given for its failure. -/
theorem rejected_entry_silences {document : Document.Program} {program : Program Site}
    (hlower : document.lower = .ok program) {config : Config}
    (entry : config.RejectedEntry program) (body : Body Site) :
    (config.analysis program body).findings =
        (config.analysis program body).problems.map (config.analysis program body).finding ∧
      (config.analysis program body).problems =
        ((entry.without.analysis program body).problems.filter fun problem =>
          !problem.isResizeBy entry.id).map (Problem.rejecting entry.method.signature) := by
  refine ⟨Analysis.findings_eq_map_problems _, ?_⟩
  have hrejects : (entry.without.analysis program body).Rejects (config.templatesFor program)
      entry.id entry.method :=
    ⟨entry.rejects, entry.declared, entry.kind,
      Document.Program.signatures_nodup_of_lower hlower⟩
  exact hrejects.problems_eq

/-- A template for `Add` that does not start with a parameter. -/
def rejectingConfig : Config := { Config.default with templates := [("Add", ["!"])] }

theorem rejected_entry_silences_add : ∃ (program : Program Site) (body : Body Site)
    (entry : rejectingConfig.RejectedEntry program), listDocument.lower = .ok program ∧
      body ∈ program.bodies ∧ entry.without = Config.default ∧ entry.method.name = "Add" ∧
      (entry.without.analysis program body).problems.length = 2 ∧
      (rejectingConfig.analysis program body).problems =
        ((entry.without.analysis program body).problems.filter fun problem =>
          !problem.isResizeBy entry.id).map (Problem.rejecting entry.method.signature) := by
  have hany : listDocument.anyBody (fun program body =>
      (Config.default.analysis program body).problems.length == 2 &&
        program.methodNamed? "Add" == some 1 &&
        (program.methods[1]?).any fun method => method.name == "Add" && method.kind == .plain &&
          method.path == none && method.params == ["list"]) = true := by
    decide +kernel
  obtain ⟨program, body, hlower, hbody, htest⟩ := Document.Program.exists_of_anyBody hany
  simp only [Bool.and_eq_true, beq_iff_eq, Option.any_eq_true] at htest
  obtain ⟨⟨hproblems, hnamed⟩, method, hmethod, ⟨⟨hname, hkind⟩, hpath⟩, hparams⟩ := htest
  have hmalformed : Template.parse method.params ["!"] = .error (.invalidRoot "!") := by
    rw [hparams]
    decide +kernel
  let entry : rejectingConfig.RejectedEntry program :=
    { before := [], signature := "Add", tokens := ["!"], after := [], id := 1, method,
      cause := .invalidRoot "!", templates_eq := rfl, named := hnamed, declared := hmethod,
      kind := hkind, path := hpath, malformed := hmalformed
      only := fun _ hmem => absurd hmem List.not_mem_nil }
  exact ⟨program, body, entry, hlower, hbody, rfl, hname, hproblems,
    (rejected_entry_silences hlower entry body).2⟩

/-- Both resizes that are reported without the entry are reported no more with it. -/
theorem rejected_entry_hides_resizes : ∃ program body, listDocument.lower = .ok program ∧
    body ∈ program.bodies ∧
    ((Config.default.analysis program body).findings.filter
      Rule.resizeInvalidatesReference.selects).length = 2 ∧
    (rejectingConfig.analysis program body).findings = [] := by
  have hany : listDocument.anyBody (fun program body =>
      ((Config.default.analysis program body).findings.filter
          Rule.resizeInvalidatesReference.selects).length == 2 &&
        (rejectingConfig.analysis program body).findings == []) = true := by
    decide +kernel
  obtain ⟨program, body, hlower, hbody, htest⟩ := Document.Program.exists_of_anyBody hany
  simp only [Bool.and_eq_true, beq_iff_eq] at htest
  exact ⟨program, body, hlower, hbody, htest⟩

end RefStability
