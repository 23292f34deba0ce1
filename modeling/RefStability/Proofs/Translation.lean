import RefStability.Proofs.Problem
import RefStability.Proofs.ReadBack
import RefStability.Proofs.Shift

/-!
# Checking a shifted body

A check compares positions with each other and with nothing else, and of the methods that a body
calls it reads the headers only. So the problems of a shifted body, in a program whose methods have
the same headers, are the problems of the body, shifted.
-/

namespace RefStability

/-- The analysis of the same body, further on in a program with the same headers. -/
structure Analysis.IsMoved (distance : Nat) (analysis moved : Analysis) : Prop where
  headers : moved.program.headers = analysis.program.headers
  body : moved.body = analysis.body.shift distance
  templates : moved.templates = analysis.templates
  maxSteps : moved.maxSteps = analysis.maxSteps
  fits : ∀ target expr, .use target expr ∈ analysis.body.events →
    expr.span.start + distance < maxPosition

def TraceStep.shift (distance : Nat) (step : TraceStep) : TraceStep :=
  (step.1, step.2.map (Expr.shift distance))

def Problem.shift (distance : Nat) : Problem → Problem
  | .untraceable argument failure => .untraceable (argument.shift distance) failure
  | .invalidation call argument victim =>
    .invalidation (call.shift distance) (argument.shift distance) (victim.shift distance)
  | .sharing call first second =>
    .sharing (call.shift distance) (first.shift distance) (second.shift distance)
  | .escape statement value => .escape (statement.shift distance) (value.shift distance)

def Finding.shift (distance : Nat) : Finding → Finding
  | .invalidatedReference call method mutator victim victimPath binding =>
    .invalidatedReference (call.shift distance) method mutator victim victimPath
      (binding.shift distance)
  | .aliasedArguments call method first second secondArgument =>
    .aliasedArguments (call.shift distance) method first second (secondArgument.shift distance)
  | .unverifiable argument reason => .unverifiable (argument.shift distance) reason
  | .escapesScope statement path => .escapesScope (statement.shift distance) path

variable {distance : Nat}

theorem Analysis.refArguments_shift (args : List (PassMode × Expr Site)) :
    refArguments (Expr.shiftArgs distance args) =
      (refArguments args).map (Expr.shift distance) := by
  rw [refArguments, refArguments, Expr.shiftArgs_eq_map, List.filterMap_map, List.map_filterMap]
  refine List.filterMap_congr fun argument _ => ?_
  obtain ⟨mode, expr⟩ := argument
  cases mode <;> rfl

namespace Analysis.IsMoved

variable {analysis moved : Analysis} (hmoved : analysis.IsMoved distance moved)
include hmoved

/-! ### Walks -/

theorem isResizable (ty : TypeId) : moved.isResizable ty = analysis.isResizable ty := by
  have htypes : moved.program.types = analysis.program.types :=
    (congrArg Program.types hmoved.headers :)
  rw [Analysis.isResizable, Program.isResizable, htypes]
  rfl

theorem map_header (id : MethodId) :
    (moved.program.methods[id]?).map Method.header =
      (analysis.program.methods[id]?).map Method.header := by
  have hmethods : moved.program.methods.map Method.header =
      analysis.program.methods.map Method.header := (congrArg Program.methods hmoved.headers :)
  rw [← List.getElem?_map, hmethods, List.getElem?_map]

theorem map_of_header {α : Type} (view : Method Unit → α) (id : MethodId) :
    (moved.program.methods[id]?).map (fun method => view method.header) =
      (analysis.program.methods[id]?).map fun method => view method.header := by
  have hview := congrArg (Option.map view) (hmoved.map_header id)
  rwa [Option.map_map, Option.map_map] at hview

/-- Both programs have a method with this number, or neither has. -/
theorem methods_cases (id : MethodId) :
    (analysis.program.methods[id]? = none ∧ moved.program.methods[id]? = none) ∨
      ∃ method other, analysis.program.methods[id]? = some method ∧
        moved.program.methods[id]? = some other ∧ other.header = method.header := by
  have hheader := hmoved.map_header id
  cases hmethod : analysis.program.methods[id]? with
  | none =>
      rw [hmethod, Option.map_none, Option.map_eq_none_iff] at hheader
      exact .inl ⟨rfl, hheader⟩
  | some method =>
      rw [hmethod, Option.map_some, Option.map_eq_some_iff] at hheader
      obtain ⟨other, hother, heq⟩ := hheader
      exact .inr ⟨method, other, rfl, hother, heq⟩

omit hmoved in
theorem stepArgument_shift (distance : Nat) {method other : Method Site}
    (hsignature : other.signature = method.signature) (args : List (PassMode × Expr Site))
    (position : Nat) (trail : Trail) :
    stepArgument other (Expr.shiftArgs distance args) position trail =
      (stepArgument method args position trail).map (TraceStep.shift distance) := by
  unfold stepArgument
  rw [Expr.shiftArgs_eq_map, List.getElem?_map, hsignature]
  cases args[position]? <;> rfl

theorem stepCall_shift (id : MethodId) {method other : Method Site}
    (hheader : other.header = method.header) (args : List (PassMode × Expr Site)) (ty : TypeId)
    (trail : Trail) :
    moved.stepCall id other (Expr.shiftArgs distance args) ty trail =
      (analysis.stepCall id method args ty trail).map (TraceStep.shift distance) := by
  have hkind : other.kind = method.kind := (congrArg Method.kind hheader :)
  have hname : other.name = method.name := (congrArg Method.name hheader :)
  have hsignature : other.signature = method.signature := (congrArg Method.signature hheader :)
  have hargument := stepArgument_shift distance hsignature args
  unfold stepCall
  rw [hkind, hname, hsignature, hmoved.templates, hmoved.isResizable]
  cases method.kind with
  | elementAccessor => exact hargument 0 _
  | viewConversion => exact hargument 0 _
  | slice =>
      cases analysis.templates.get? id with
      | none => exact hargument 0 trail
      | some parsed =>
          cases parsed with
          | error cause => rfl
          | ok template => exact hargument template.rootIndex _
  | plain =>
      cases analysis.templates.get? id with
      | none => rfl
      | some parsed =>
          cases parsed with
          | error cause => rfl
          | ok template => exact hargument template.rootIndex _

theorem stepLocal_shift (expr : Expr Site) (target : LocalId) (declared : LocalDecl Site)
    (trail : Trail) :
    moved.stepLocal (expr.shift distance) target (declared.shift distance) trail =
      (analysis.stepLocal expr target declared trail).map (TraceStep.shift distance) := by
  unfold stepLocal LocalDecl.shift
  simp only [hmoved.isResizable]
  cases declared.kind with
  | value => rfl
  | scopeHandle => rfl
  | ref =>
      simp only
      rw [hmoved.body, Body.resolve?_shift]
      cases analysis.body.resolve? expr with
      | none => rfl
      | some binding =>
          have hkind : (binding.shift distance).kind = binding.kind.shift distance := rfl
          simp only [Option.map_some, hkind]
          cases binding.kind <;> rfl

/-- Both analyses take the same step. -/
theorem step_shift (trail : Trail) (expr : Expr Site) :
    moved.step trail (expr.shift distance) =
      (analysis.step trail expr).map (TraceStep.shift distance) := by
  cases expr with
  | literal | computed => rfl
  | staticField | field | index =>
      simp only [Expr.shift, step, hmoved.isResizable]
      rfl
  | slice | scopeValue => rfl
  | localVar site target =>
      have hlocal := hmoved.stepLocal_shift (.localVar site target) target
      rw [Expr.shift, step, step, hmoved.body, Body.shift, List.getElem?_map]
      cases analysis.body.locals[target]? with
      | none => rfl
      | some declared => exact hlocal declared trail
  | param site target =>
      rw [Expr.shift, step, step, hmoved.body, Body.shift, List.getElem?_map]
      cases analysis.body.params[target]? with
      | none => rfl
      | some declared =>
          simp only [Option.map_some, hmoved.isResizable]
          rfl
  | call site id args ty =>
      rw [Expr.shift, step, step]
      obtain ⟨hnone, hother⟩ | ⟨method, other, hmethod, hother, hheader⟩ :=
        hmoved.methods_cases id
      · rw [hnone, hother]
        rfl
      · rw [hmethod, hother]
        exact hmoved.stepCall_shift id hheader args ty trail

theorem walk_shift (steps : Nat) (trail : Trail) (expr : Expr Site) :
    moved.walk steps trail (expr.shift distance) = analysis.walk steps trail expr := by
  induction steps generalizing trail expr with
  | zero => rw [walk, walk, hmoved.maxSteps]
  | succ steps ih =>
      rw [walk, walk, hmoved.step_shift]
      cases analysis.step trail expr with
      | error failure => rfl
      | ok result =>
          obtain ⟨longer, next⟩ := result
          cases next with
          | none => rfl
          | some next => exact ih longer next

theorem trace_shift (expr : Expr Site) (elementType : Option TypeId) :
    moved.trace (expr.shift distance) elementType = analysis.trace expr elementType := by
  unfold trace
  rw [hmoved.maxSteps]
  cases elementType with
  | none => exact hmoved.walk_shift _ _ expr
  | some ty =>
      simp only [hmoved.isResizable]
      exact hmoved.walk_shift _ _ expr

theorem traceBinding_shift (binding : Binding) :
    moved.traceBinding (binding.shift distance) = analysis.traceBinding binding := by
  have hkind : (binding.shift distance).kind = binding.kind.shift distance := rfl
  have htype : (moved.body.locals[binding.target]?).map (·.ty) =
      (analysis.body.locals[binding.target]?).map (·.ty) := by
    rw [hmoved.body, Body.shift, List.getElem?_map, Option.map_map]
    rfl
  unfold traceBinding
  rw [hkind]
  cases binding.kind with
  | external => rfl
  | loopItem span =>
      refine (hmoved.trace_shift binding.producer _).trans ?_
      exact congrArg _ htype
  | ordinary => exact hmoved.trace_shift binding.producer none

theorem path_shift (expr : Expr Site) (elementType : Option TypeId) :
    moved.path (expr.shift distance) elementType = analysis.path expr elementType :=
  congrArg pathOrUnrepresentable (hmoved.trace_shift expr elementType)

theorem bindingPath_shift (binding : Binding) :
    moved.bindingPath (binding.shift distance) = analysis.bindingPath binding :=
  congrArg pathOrUnrepresentable (hmoved.traceBinding_shift binding)

/-! ### Problems -/

theorem map_binding_liveAt_shift (position : Nat) :
    (moved.liveAt (position + distance)).map LiveBinding.binding =
      ((analysis.liveAt position).map LiveBinding.binding).map (Binding.shift distance) := by
  rw [map_binding_liveAt, map_binding_liveAt, hmoved.body,
    analysis.body.tracksAt_shift position hmoved.fits, List.map_map]
  have hbinding : (fun tracked : Tracked => tracked.binding) ∘ Tracked.shift distance =
      Binding.shift distance ∘ fun tracked => tracked.binding := rfl
  rw [hbinding, ← List.map_map, List.filter_map]
  refine congrArg _ (List.filter_congr fun binding _ => ?_)
  rw [Function.comp_apply, hmoved.bindingPath_shift, Body.shift, List.getElem?_map,
    Option.isSome_map]
  rfl

theorem mayMove_shift (argument : Expr Site) (victim : Binding) :
    moved.mayMove (argument.shift distance) (victim.shift distance) =
      analysis.mayMove argument victim := by
  rw [mayMove, hmoved.path_shift, hmoved.bindingPath_shift, mayMove]

theorem mayShare_shift (first second : Expr Site) :
    moved.mayShare (first.shift distance) (second.shift distance) =
      analysis.mayShare first second := by
  rw [mayShare, hmoved.path_shift, hmoved.path_shift, mayShare]

theorem untraceableProblems_shift (arguments : List (Expr Site)) :
    moved.untraceableProblems (arguments.map (Expr.shift distance)) =
      (analysis.untraceableProblems arguments).map (Problem.shift distance) := by
  rw [untraceableProblems, untraceableProblems, List.filterMap_map, List.map_filterMap]
  refine List.filterMap_congr fun argument _ => ?_
  rw [Function.comp_apply, hmoved.trace_shift]
  cases analysis.trace argument none <;> rfl

theorem invalidationProblems_shift (call : Expr Site) (arguments : List (Expr Site)) :
    moved.invalidationProblems (call.shift distance) (arguments.map (Expr.shift distance)) =
      (analysis.invalidationProblems call arguments).map (Problem.shift distance) := by
  have hstart : (call.shift distance).span.start = call.span.start + distance := by
    rw [Expr.span_shift]
    rfl
  rw [invalidationProblems, invalidationProblems, List.flatMap_map, List.map_flatMap]
  refine List.flatMap_congr fun argument _ => ?_
  rw [hstart, hmoved.map_binding_liveAt_shift, List.filter_map, List.map_map, List.map_map]
  have hmove : moved.mayMove (argument.shift distance) ∘ Binding.shift distance =
      analysis.mayMove argument := funext fun victim => hmoved.mayMove_shift argument victim
  rw [hmove]
  rfl

theorem sharingProblems_shift (call : Expr Site) (arguments : List (Expr Site)) :
    moved.sharingProblems (call.shift distance) (arguments.map (Expr.shift distance)) =
      (analysis.sharingProblems call arguments).map (Problem.shift distance) := by
  rw [sharingProblems, sharingProblems, orderedPairs_map, List.filter_map, List.map_map,
    List.map_map]
  have hshare : (fun pair : Expr Site × Expr Site => moved.mayShare pair.1 pair.2) ∘
      Prod.map (Expr.shift distance) (Expr.shift distance) =
      fun pair => analysis.mayShare pair.1 pair.2 :=
    funext fun pair => hmoved.mayShare_shift pair.1 pair.2
  rw [hshare]
  rfl

theorem callProblemsOf_shift (call : Expr Site) (id : MethodId) {method other : Method Site}
    (hheader : other.header = method.header) (arguments : List (Expr Site)) (rule : Rule) :
    moved.callProblemsOf (call.shift distance) id other (arguments.map (Expr.shift distance)) rule =
      (analysis.callProblemsOf call id method arguments rule).map (Problem.shift distance) := by
  have hhelper : moved.isReferenceHelper id other = analysis.isReferenceHelper id method := by
    have hkind : other.kind = method.kind := (congrArg Method.kind hheader :)
    rw [isReferenceHelper, hkind, hmoved.templates]
    rfl
  cases rule with
  | unverifiableReference => exact hmoved.untraceableProblems_shift arguments
  | resizeInvalidatesReference =>
      rw [callProblemsOf, callProblemsOf, hhelper, hmoved.invalidationProblems_shift]
      split <;> rfl
  | aliasedDynamicArguments => exact hmoved.sharingProblems_shift call arguments
  | scopedReferenceEscape => rfl

theorem callProblems_shift (call : Expr Site) (id : MethodId) {method other : Method Site}
    (hheader : other.header = method.header) (arguments : List (Expr Site)) :
    moved.callProblems (call.shift distance) id other (arguments.map (Expr.shift distance)) =
      (analysis.callProblems call id method arguments).map (Problem.shift distance) := by
  simp only [callProblems, List.map_append, hmoved.callProblemsOf_shift call id hheader]

theorem returnsRef_eq : moved.returnsRef = analysis.returnsRef := by
  have hmethod : moved.body.method = analysis.body.method := by
    rw [hmoved.body]
    rfl
  rw [returnsRef, returnsRef, hmethod]
  obtain ⟨hnone, hother⟩ | ⟨method, other, hfound, hother, hheader⟩ :=
    hmoved.methods_cases analysis.body.method
  · rw [hnone, hother]
  · rw [hfound, hother]
    exact (congrArg Method.returnsRef hheader :)

theorem nodeProblems_shift (node : Node Site) :
    moved.nodeProblems (node.shift distance) =
      (analysis.nodeProblems node).map (Problem.shift distance) := by
  cases node with
  | stmt stmt =>
      cases stmt with
      | ret site value =>
          cases value with
          | none => rfl
          | some value =>
              simp only [Node.shift, Stmt.shift, Option.map_some, nodeProblems,
                hmoved.returnsRef_eq, hmoved.path_shift]
              split
              · simp [Problem.shift, Stmt.shift]
              · rfl
      | _ => rfl
  | expr expr =>
      cases expr with
      | call site id args ty =>
          simp only [Node.shift, Expr.shift, nodeProblems]
          obtain ⟨hnone, hother⟩ | ⟨method, other, hmethod, hother, hheader⟩ :=
            hmoved.methods_cases id
          · rw [hnone, hother]
            rfl
          · rw [hmethod, hother]
            simp only [refArguments_shift]
            exact hmoved.callProblems_shift (.call site id args ty) id hheader _
      | _ => rfl

theorem problems_shift : moved.problems = analysis.problems.map (Problem.shift distance) := by
  rw [problems, problems, hmoved.body, Body.nodes_shift, List.flatMap_map, List.map_flatMap]
  exact List.flatMap_congr fun node _ => hmoved.nodeProblems_shift node

/-! ### Findings -/

theorem locate_shift (span : Span) :
    moved.locate (span.shift distance) = (analysis.locate span).shift distance := by
  rw [locate, hmoved.body]
  rfl

theorem calleeSignature_shift (call : Expr Site) :
    moved.calleeSignature (call.shift distance) = analysis.calleeSignature call := by
  cases call with
  | call site id args ty =>
      have hsignature := hmoved.map_of_header (·.signature) id
      exact congrArg (·.getD "") hsignature
  | _ => rfl

theorem localName_eq (target : LocalId) : moved.localName target = analysis.localName target := by
  rw [localName, hmoved.body, Body.shift, List.getElem?_map, Option.map_map]
  rfl

theorem finding_shift (problem : Problem) :
    moved.finding (problem.shift distance) = (analysis.finding problem).shift distance := by
  cases problem with
  | untraceable argument failure =>
      simp only [Problem.shift, finding, Expr.span_shift, hmoved.locate_shift, Finding.shift]
  | invalidation call argument victim =>
      have hspan : (victim.shift distance).span = victim.span.shift distance := rfl
      have htarget : (victim.shift distance).target = victim.target := rfl
      simp only [Problem.shift, finding, Expr.span_shift, hspan, htarget, hmoved.locate_shift,
        hmoved.calleeSignature_shift, hmoved.path_shift, hmoved.bindingPath_shift,
        hmoved.localName_eq, Finding.shift]
  | sharing call first second =>
      simp only [Problem.shift, finding, Expr.span_shift, hmoved.locate_shift,
        hmoved.calleeSignature_shift, hmoved.path_shift, Finding.shift]
  | escape statement value =>
      simp only [Problem.shift, finding, Stmt.span_shift, hmoved.locate_shift, hmoved.path_shift,
        Finding.shift]

/-- The findings of a shifted body are those of the body, shifted. -/
theorem findings_shift : moved.findings = analysis.findings.map (Finding.shift distance) := by
  rw [findings_eq_map_problems, findings_eq_map_problems, hmoved.problems_shift, List.map_map,
    List.map_map]
  exact List.map_congr_left fun problem _ => hmoved.finding_shift problem

end Analysis.IsMoved

end RefStability
