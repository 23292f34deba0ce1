import RefStability.Proofs.FixedSize
import RefStability.Proofs.StepBound

/-!
# Reading through a reference

A reference is traced in two ways: as an expression, by a walk that goes on to what the reference is
bound to, and as a binding, by a walk that starts there. The first takes one step more than the
second and gives the same result, be it a path or a failure. A walk that starts with an element of
what an expression leads to gives the path of the expression, extended by the element.
-/

namespace RefStability

/-! ### What a walk adds to a trail -/

theorem Path.boundary_snoc (path : Path) (segment : Segment) (isResizable : Bool) :
    (path.snoc segment isResizable).boundary =
      if isResizable then (path.snoc segment isResizable).length else path.boundary := by
  have hle := path.boundary_le
  cases isResizable with
  | true => simp [snoc, ofSegments, length]
  | false =>
      simp only [snoc, ofSegments, List.length_append, List.length_singleton, Bool.false_eq_true,
        if_false]
      omega

namespace Analysis

variable {analysis : Analysis} {trail : Trail}

theorem Stops.walk_empty {expr : Expr Site} {result : Except TraceFailure Path}
    (hstops : analysis.Stops expr result) (steps : Nat) :
    analysis.walk (steps + 1) .empty expr = result := by
  rw [hstops.walk_eq Trail.valid_empty]
  cases result with
  | error failure => rfl
  | ok path => exact congrArg Except.ok (Trail.after_empty path)

/-- A walk with a trail behind it gives what the walk without one gives, followed by the trail. -/
theorem walk_eq_map_after (htrail : trail.Valid) (steps : Nat) (expr : Expr Site) :
    analysis.walk steps trail expr = (analysis.walk steps .empty expr).map trail.after := by
  induction steps generalizing trail expr with
  | zero => rfl
  | succ steps ih =>
      rcases analysis.stops_or_derives expr with ⟨result, hstops⟩ | ⟨next, extend, hderives⟩
      · rw [hstops.walk_eq htrail, hstops.walk_empty]
      · obtain ⟨longer, hlonger, hafter, hstep⟩ := hderives.step_eq htrail
        obtain ⟨first, hfirst, hextend, hfirstStep⟩ := hderives.step_eq Trail.valid_empty
        simp only [walk, hstep, hfirstStep]
        rw [ih hlonger, ih hfirst]
        cases analysis.walk steps .empty next with
        | error failure => rfl
        | ok path => simp only [Except.map, hafter, hextend, Trail.after_empty]

/-- An element of what an expression leads to has the path of the expression, one segment longer. -/
theorem trace_element (expr : Expr Site) (ty : TypeId) :
    analysis.trace expr (some ty) =
      (analysis.trace expr none).map fun path => path.snoc .index (analysis.isResizable ty) := by
  have hvalid := Trail.valid_push Trail.valid_empty .index (analysis.isResizable ty)
  have hafter : (Trail.empty.push .index (analysis.isResizable ty)).after =
      fun path => path.snoc .index (analysis.isResizable ty) := by
    funext path
    rw [Trail.after_push Trail.valid_empty, Trail.after_empty]
  rw [← hafter]
  exact walk_eq_map_after hvalid analysis.maxSteps expr

end Analysis

/-! ### The bound of a walk -/

/-- The failure of the same walk with another bound. -/
def TraceFailure.withLimit (limit : Nat) : TraceFailure → TraceFailure
  | .stepLimit _ => .stepLimit limit
  | failure => failure

theorem TraceFailure.withLimit_eq_self {failure : TraceFailure} {limit : Nat}
    (hfailure : ∀ other, failure ≠ .stepLimit other) : failure.withLimit limit = failure := by
  cases failure with
  | stepLimit other => exact absurd rfl (hfailure other)
  | _ => rfl

theorem TraceFailure.withLimit_withLimit (failure : TraceFailure) (limit other : Nat) :
    (failure.withLimit other).withLimit limit = failure.withLimit limit := by
  cases failure <;> rfl

namespace Analysis

variable (analysis : Analysis)

/-- Two walks of as many steps end alike; each names its own bound where it has no steps left. -/
theorem walk_eq_withLimit (limit other steps : Nat) (trail : Trail) (expr : Expr Site) :
    (analysis.withMaxSteps limit).walk steps trail expr =
      ((analysis.withMaxSteps other).walk steps trail expr).mapError (.withLimit limit) := by
  induction steps generalizing trail expr with
  | zero => rfl
  | succ steps ih =>
      have hsteps := analysis.stepsTo_step trail expr
      simp only [walk, step_withMaxSteps]
      cases hstep : analysis.step trail expr with
      | error failure =>
          rw [hstep] at hsteps
          cases hsteps with
          | fails hfailure =>
              exact congrArg Except.error (TraceFailure.withLimit_eq_self hfailure).symm
      | ok result =>
          obtain ⟨longer, next⟩ := result
          cases next with
          | none => rfl
          | some next => exact ih longer next

/-- A binding names no bound but its own. -/
theorem traceBinding_eq_withLimit (bound : Nat) (binding : Binding) :
    (analysis.withMaxSteps bound).traceBinding binding =
      ((analysis.withMaxSteps bound).traceBinding binding).mapError (.withLimit bound) := by
  unfold traceBinding
  cases binding.kind with
  | external => rfl
  | ordinary => exact analysis.walk_eq_withLimit bound bound bound .empty binding.producer
  | loopItem span =>
      cases (analysis.withMaxSteps bound).body.locals[binding.target]? with
      | none => exact analysis.walk_eq_withLimit bound bound bound .empty binding.producer
      | some declared => exact analysis.walk_eq_withLimit bound bound bound _ binding.producer

/-! ### The step through a reference -/

variable {analysis} {site : Site} {target : LocalId} {binding : Binding}

theorem trace_reference (hlocal : analysis.body.isRefLocal target = true)
    (hresolve : analysis.body.resolve? (.localVar site target) = some binding) (bound : Nat) :
    (analysis.withMaxSteps (bound + 1)).trace (.localVar site target) none =
      ((analysis.withMaxSteps bound).traceBinding binding).mapError (.withLimit (bound + 1)) := by
  obtain ⟨declared, hdeclared, hkind⟩ := (Option.any_eq_true _ _).mp hlocal
  have htarget : binding.target = target := by
    obtain ⟨_, _, heq⟩ := Body.resolve?_mem_events hresolve
    injection heq with _ heq
    exact heq.symm
  have hstep : analysis.step .empty (.localVar site target) =
      analysis.stepLocal (.localVar site target) target declared .empty := by
    rw [step, hdeclared]
  change (analysis.withMaxSteps (bound + 1)).walk (bound + 1) .empty _ = _
  rw [walk, step_withMaxSteps, hstep]
  unfold traceBinding
  cases hbinding : binding.kind with
  | external =>
      simp only [stepLocal, eq_of_beq hkind, hresolve, hbinding, htarget]
      rfl
  | ordinary =>
      simp only [stepLocal, eq_of_beq hkind, hresolve, hbinding]
      exact analysis.walk_eq_withLimit (bound + 1) bound bound .empty binding.producer
  | loopItem span =>
      have hsame : (analysis.withMaxSteps bound).body.locals[target]? = some declared := hdeclared
      simp only [stepLocal, eq_of_beq hkind, hresolve, hbinding, htarget, hsame]
      exact analysis.walk_eq_withLimit (bound + 1) bound bound _ binding.producer

end Analysis

/-- An expression that names a reference is traced to what tracing its binding with one step less
gives; only the bound that a failure names is each walk's own. An element of what an expression
leads to is traced to the path of the expression and the element, and the boundary moves to the end
if the element is resizable. -/
theorem reference_reads_through (analysis : Analysis) :
    (∀ (bound : Nat) (site : Site) (target : LocalId) (binding : Binding),
      analysis.body.isRefLocal target = true →
      analysis.body.resolve? (.localVar site target) = some binding →
        (analysis.withMaxSteps (bound + 1)).trace (.localVar site target) none =
            ((analysis.withMaxSteps bound).traceBinding binding).mapError
              (.withLimit (bound + 1)) ∧
          (analysis.withMaxSteps bound).traceBinding binding =
            ((analysis.withMaxSteps (bound + 1)).trace (.localVar site target) none).mapError
              (.withLimit bound)) ∧
    ∀ (expr : Expr Site) (ty : TypeId) (path : Path), analysis.trace expr none = .ok path →
      ∃ element, analysis.trace expr (some ty) = .ok element ∧
        element.segments = path.segments ++ [.index] ∧ element.isScoped = path.isScoped ∧
        element.boundary = if analysis.isResizable ty then element.length else path.boundary := by
  constructor
  · intro bound site target binding hlocal hresolve
    have hforth := Analysis.trace_reference hlocal hresolve bound
    refine ⟨hforth, ?_⟩
    have hown := analysis.traceBinding_eq_withLimit bound binding
    rw [hforth]
    cases hresult : (analysis.withMaxSteps bound).traceBinding binding with
    | ok path => rfl
    | error failure =>
        rw [hresult] at hown
        simp only [Except.mapError, TraceFailure.withLimit_withLimit]
        exact hown
  · intro expr ty path htrace
    refine ⟨path.snoc .index (analysis.isResizable ty), ?_, rfl, rfl, ?_⟩
    · rw [Analysis.trace_element, htrace]
      rfl
    · exact Path.boundary_snoc path .index (analysis.isResizable ty)

/-- An item of a loop over what a reference leads to. Tracing its binding takes three steps and
tracing the item four. -/
theorem reference_reads_through_item : ∃ (analysis : Analysis) (site : Site) (binding : Binding),
    slotDocument.lower = .ok analysis.program ∧ analysis.body ∈ analysis.program.bodies ∧
      analysis.body.isRefLocal binding.target = true ∧
      analysis.body.resolve? (.localVar site binding.target) = some binding ∧
      binding.isLoopItem = true ∧
      (analysis.withMaxSteps 4).trace (.localVar site binding.target) none =
        .ok (.ofSegments [.name "store", .name "slots", .index, .index] 0 false) ∧
      (analysis.withMaxSteps 3).trace (.localVar site binding.target) none =
        .error (.stepLimit 3) ∧
      ∃ element, (analysis.withMaxSteps 4).trace (.localVar site binding.target) (some 0) =
        .ok element ∧
          element.segments = [.name "store", .name "slots", .index, .index, .index] := by
  have hany : slotDocument.anyBody (fun program body => body.exprs[3]?.any fun expr =>
      (body.resolve? expr).any fun binding =>
        let analysis := Analysis.mk program body (.ofProgram program) defaultMaxSteps
        body.isRefLocal binding.target && binding.isLoopItem &&
          decide ((analysis.withMaxSteps 3).traceBinding binding =
            .ok (.ofSegments [.name "store", .name "slots", .index, .index] 0 false)) &&
          decide ((analysis.withMaxSteps 2).traceBinding binding = .error (.stepLimit 2))) =
        true := by
    decide +kernel
  obtain ⟨program, body, hlower, hbody, htest⟩ := Document.Program.exists_of_anyBody hany
  obtain ⟨expr, _, htest⟩ := (Option.any_eq_true _ _).mp htest
  obtain ⟨binding, hresolve, htest⟩ := (Option.any_eq_true _ _).mp htest
  simp only [Bool.and_eq_true, decide_eq_true_eq] at htest
  obtain ⟨⟨⟨hlocal, hitem⟩, hpath⟩, hcut⟩ := htest
  obtain ⟨_, site, rfl⟩ := Body.resolve?_mem_events hresolve
  let analysis : Analysis := ⟨program, body, .ofProgram program, defaultMaxSteps⟩
  have hthrough := (reference_reads_through analysis).1
  have htrace : (analysis.withMaxSteps 4).trace (.localVar site binding.target) none =
      .ok (.ofSegments [.name "store", .name "slots", .index, .index] 0 false) := by
    rw [(hthrough 3 site binding.target binding hlocal hresolve).1, hpath]
    rfl
  refine ⟨analysis, site, binding, hlower, hbody, hlocal, hresolve, hitem, htrace, ?_, ?_⟩
  · rw [(hthrough 2 site binding.target binding hlocal hresolve).1, hcut]
    rfl
  · obtain ⟨element, helement, hsegments, _⟩ :=
      (reference_reads_through (analysis.withMaxSteps 4)).2 _ 0 _ htrace
    exact ⟨element, helement, hsegments⟩

end RefStability
