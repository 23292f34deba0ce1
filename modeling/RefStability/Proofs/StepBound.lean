import RefStability.Proofs.Meaning

/-!
# The bound on the steps of a walk

A walk goes from an expression to a part of it or to what a local was bound to, and both have
smaller numbers. So it ends by itself after at most as many steps as there are expressions up to the
first one. A bound that is too small makes the walk fail with that bound; any other result is the
same for all larger bounds.
-/

namespace RefStability

namespace Analysis

variable {analysis : Analysis} {expr : Expr Site} {trail : Trail}

/-- What one step can do: fail for a reason other than the bound, reach a root, or go on. -/
inductive StepsTo (analysis : Analysis) (expr : Expr Site) : Except TraceFailure TraceStep → Prop
  | fails {failure : TraceFailure} (hfailure : ∀ limit, failure ≠ .stepLimit limit) :
      StepsTo analysis expr (.error failure)
  | ends (trail : Trail) : StepsTo analysis expr (.ok (trail, none))
  | goesToPart {trail : Trail} {next : Expr Site} (hpart : next ∈ expr.parts) :
      StepsTo analysis expr (.ok (trail, some next))
  | goesToProducer {trail : Trail} {binding : Binding}
      (hresolve : analysis.body.resolve? expr = some binding) :
      StepsTo analysis expr (.ok (trail, some binding.producer))

section Step

variable (analysis : Analysis)

theorem stepsTo_argument (site : Site) (id : MethodId) (method : Method Site)
    (args : List (PassMode × Expr Site)) (ty : TypeId) (position : Nat) (trail : Trail) :
    analysis.StepsTo (.call site id args ty) (stepArgument method args position trail) := by
  unfold stepArgument
  cases hargument : args[position]? with
  | none => exact .fails (by simp)
  | some argument => exact .goesToPart (List.mem_map_of_mem (List.mem_of_getElem? hargument))

theorem stepsTo_call (site : Site) (id : MethodId) (method : Method Site)
    (args : List (PassMode × Expr Site)) (ty : TypeId) (trail : Trail) :
    analysis.StepsTo (.call site id args ty) (analysis.stepCall id method args ty trail) := by
  have hargument := analysis.stepsTo_argument site id method args ty
  unfold stepCall
  cases method.kind with
  | elementAccessor => exact hargument 0 _
  | viewConversion => exact hargument 0 _
  | slice =>
      cases analysis.templates.get? id with
      | none => exact hargument 0 trail
      | some parsed =>
          cases parsed with
          | error cause => exact .fails (by simp)
          | ok template => exact hargument template.rootIndex _
  | plain =>
      cases analysis.templates.get? id with
      | none => exact .fails (by simp)
      | some parsed =>
          cases parsed with
          | error cause => exact .fails (by simp)
          | ok template => exact hargument template.rootIndex _

theorem stepsTo_local (site : Site) (target : LocalId) (declared : LocalDecl Site)
    (trail : Trail) :
    analysis.StepsTo (.localVar site target)
      (analysis.stepLocal (.localVar site target) target declared trail) := by
  unfold stepLocal
  cases declared.kind with
  | value => exact .ends _
  | scopeHandle => exact .ends _
  | ref =>
      cases hresolve : analysis.body.resolve? (.localVar site target) with
      | none => exact .fails (by simp)
      | some binding =>
          cases hkind : binding.kind with
          | external =>
              simp only [hkind]
              exact .fails (by simp)
          | loopItem span =>
              simp only [hkind]
              exact .goesToProducer hresolve
          | ordinary =>
              simp only [hkind]
              exact .goesToProducer hresolve

theorem stepsTo_step (trail : Trail) (expr : Expr Site) :
    analysis.StepsTo expr (analysis.step trail expr) := by
  cases expr with
  | literal site => exact .fails (by simp)
  | computed site operands ty => exact .fails (by simp)
  | staticField site name ty => exact .ends _
  | field site receiver name ty => exact .goesToPart List.mem_cons_self
  | index site receiver operands ty => exact .goesToPart List.mem_cons_self
  | slice site receiver operands ty => exact .goesToPart List.mem_cons_self
  | scopeValue site scope ty => exact .goesToPart List.mem_cons_self
  | param site target =>
      rw [step]
      cases analysis.body.params[target]? with
      | none => exact .fails (by simp)
      | some declared => exact .ends _
  | localVar site target =>
      rw [step]
      cases analysis.body.locals[target]? with
      | none => exact .fails (by simp)
      | some declared => exact analysis.stepsTo_local site target declared trail
  | call site id args ty =>
      rw [step]
      cases analysis.program.methods[id]? with
      | none => exact .fails (by simp)
      | some method => exact analysis.stepsTo_call site id method args ty trail

end Step

/-- A step goes to an expression with a smaller number. -/
theorem StepsTo.index_lt {longer : Trail} {next : Expr Site}
    (hstep : analysis.StepsTo expr (.ok (longer, some next))) (hlaid : analysis.body.IsLaid)
    (hexpr : expr ∈ analysis.body.exprs) :
    next ∈ analysis.body.exprs ∧ next.label.index < expr.label.index := by
  cases hstep with
  | goesToPart hpart =>
      exact ⟨Body.IsLaid.part_mem_exprs hexpr hpart, hlaid.part_index_lt hexpr hpart⟩
  | goesToProducer hresolve => exact hlaid.producer_index_lt hexpr hresolve

/-! ### Enough steps -/

theorem walk_ne_stepLimit (hlaid : analysis.body.IsLaid) {steps : Nat}
    (hexpr : expr ∈ analysis.body.exprs) (hsteps : expr.label.index < steps) (trail : Trail)
    (limit : Nat) : analysis.walk steps trail expr ≠ .error (.stepLimit limit) := by
  -- Each step takes one from the steps left and at least one from the number of the expression.
  induction steps generalizing expr trail with
  | zero => omega
  | succ steps ih =>
      have hstep := analysis.stepsTo_step trail expr
      unfold walk
      cases hresult : analysis.step trail expr with
      | error failure =>
          rw [hresult] at hstep
          cases hstep with
          | fails hfailure =>
              intro herror
              exact hfailure limit (Except.error.inj herror)
      | ok result =>
          obtain ⟨longer, next⟩ := result
          rw [hresult] at hstep
          cases next with
          | none =>
              intro herror
              cases herror
          | some next =>
              obtain ⟨hnext, hlt⟩ := hstep.index_lt hlaid hexpr
              exact ih hnext (by omega) longer

/-! ### More steps -/

/-- The same analysis with another bound. -/
def withMaxSteps (analysis : Analysis) (maxSteps : Nat) : Analysis := { analysis with maxSteps }

@[simp]
theorem step_withMaxSteps (maxSteps : Nat) :
    (analysis.withMaxSteps maxSteps).step trail expr = analysis.step trail expr := by
  cases expr <;> rfl

/-- With fewer steps a walk ends as it does with more of them, or for want of steps. -/
theorem walk_eq_of_le {fewer more few many : Nat} (hle : few ≤ many) (trail : Trail)
    (expr : Expr Site) :
    (analysis.withMaxSteps fewer).walk few trail expr = .error (.stepLimit fewer) ∨
      (analysis.withMaxSteps fewer).walk few trail expr =
        (analysis.withMaxSteps more).walk many trail expr := by
  -- Both walks take the same steps, so they part only where the first one has none left.
  induction few generalizing many trail expr with
  | zero => exact .inl rfl
  | succ few ih =>
      obtain ⟨many, rfl⟩ := Nat.exists_eq_succ_of_ne_zero (show many ≠ 0 by omega)
      unfold walk
      rw [step_withMaxSteps, step_withMaxSteps]
      cases analysis.step trail expr with
      | error failure => exact .inr rfl
      | ok result =>
          obtain ⟨longer, next⟩ := result
          cases next with
          | none => exact .inr rfl
          | some next => exact ih (by omega) longer next

theorem trace_eq_of_le {fewer more : Nat} (hle : fewer ≤ more) (expr : Expr Site)
    (elementType : Option TypeId) :
    (analysis.withMaxSteps fewer).trace expr elementType = .error (.stepLimit fewer) ∨
      (analysis.withMaxSteps fewer).trace expr elementType =
        (analysis.withMaxSteps more).trace expr elementType := by
  cases elementType with
  | none => exact walk_eq_of_le hle _ expr
  | some ty => exact walk_eq_of_le hle _ expr

end Analysis

/-- Every step goes to an expression with a smaller number, so that as many steps as there are
expressions up to the traced one are enough; and a smaller bound changes nothing but that the walk
may be cut off. -/
theorem trace_ends_by_index {document : Document.Program} {analysis : Analysis}
    (hlower : document.lower = .ok analysis.program)
    (hbody : analysis.body ∈ analysis.program.bodies) {index : Nat} {expr : Expr Site}
    (hexpr : analysis.body.exprs[index]? = some expr) (elementType : Option TypeId) :
    (∀ trail longer next, analysis.step trail expr = .ok (longer, some next) →
      ∃ earlier, earlier < index ∧ analysis.body.exprs[earlier]? = some next) ∧
    (index + 1 ≤ analysis.maxSteps →
      ∀ limit, analysis.trace expr elementType ≠ .error (.stepLimit limit)) ∧
    ∀ fewer more, fewer ≤ more →
      (analysis.withMaxSteps fewer).trace expr elementType = .error (.stepLimit fewer) ∨
      (analysis.withMaxSteps fewer).trace expr elementType =
        (analysis.withMaxSteps more).trace expr elementType := by
  have hlaid := Document.Program.lower_laid hlower hbody
  have hmem := List.mem_of_getElem? hexpr
  have hindex := hlaid.index_eq_of_getElem? hexpr
  refine ⟨?_, ?_, ?_⟩
  · intro trail longer next hstep
    have hsteps := analysis.stepsTo_step trail expr
    rw [hstep] at hsteps
    obtain ⟨hnext, hlt⟩ := hsteps.index_lt hlaid hmem
    obtain ⟨earlier, hearlier⟩ := List.mem_iff_getElem?.mp hnext
    have hnumber := hlaid.index_eq_of_getElem? hearlier
    exact ⟨earlier, by omega, hearlier⟩
  · intro hsteps limit
    exact Analysis.walk_ne_stepLimit hlaid hmem (by omega) _ limit
  · intro fewer more hle
    exact Analysis.trace_eq_of_le hle expr elementType

/-- A field of what a reference into a list leads to: six steps are enough, two are not. -/
theorem trace_ends_by_index_field : ∃ (analysis : Analysis) (expr : Expr Site),
    listDocument.lower = .ok analysis.program ∧ analysis.body ∈ analysis.program.bodies ∧
      analysis.body.exprs[5]? = some expr ∧ 5 + 1 ≤ analysis.maxSteps ∧
      (∀ limit, analysis.trace expr none ≠ .error (.stepLimit limit)) ∧
      (analysis.withMaxSteps 2).trace expr none = .error (.stepLimit 2) := by
  have hany : listDocument.anyBody (fun program body => body.exprs[5]?.any fun expr =>
      ((Analysis.mk program body (.ofProgram program) 6).withMaxSteps 2).trace expr none =
        .error (.stepLimit 2)) = true := by
    decide +kernel
  obtain ⟨program, body, hlower, hbody, htest⟩ := Document.Program.exists_of_anyBody hany
  obtain ⟨expr, hexpr, hcut⟩ := (Option.any_eq_true _ _).mp htest
  refine ⟨⟨program, body, .ofProgram program, 6⟩, expr, hlower, hbody, hexpr, Nat.le_refl _, ?_,
    of_decide_eq_true hcut⟩
  exact (trace_ends_by_index hlower hbody hexpr none).2.1 (Nat.le_refl _)

end RefStability
