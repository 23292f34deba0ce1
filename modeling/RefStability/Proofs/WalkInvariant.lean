import RefStability.Path.Trace

/-!
# What every walk preserves

A step changes a trail in three ways only: it puts a segment in front, it puts the segments of a
template in front, or it marks the trail as scoped. A property that these three preserve is
preserved by every step, and so it holds of every trail of a walk; the path is made of the last one.
-/

namespace RefStability

/-- The result of a step that fails, or whose trail has the property. -/
def TraceStep.Gives (holds : Trail → Prop) : Except TraceFailure TraceStep → Prop
  | .error _ => True
  | .ok (longer, _) => holds longer

namespace Analysis

/-- A property that no change of a trail destroys, with the types and templates at hand. -/
structure Preserves (analysis : Analysis) (holds : Trail → Prop) : Prop where
  push {trail : Trail} (segment : Segment) (ty : TypeId) (htrail : holds trail) :
    holds (trail.push segment (analysis.isResizable ty))
  splice {trail : Trail} {id : MethodId} {template : Template}
    (htemplate : analysis.templates.get? id = some (.ok template)) (htrail : holds trail) :
    holds (trail.splice template)
  scope {trail : Trail} (htrail : holds trail) : holds { trail with isScoped := true }

theorem gives_stepArgument {holds : Trail → Prop} {trail : Trail} (htrail : holds trail)
    (method : Method Site) (args : List (PassMode × Expr Site)) (position : Nat) :
    TraceStep.Gives holds (stepArgument method args position trail) := by
  unfold stepArgument
  cases args[position]? with
  | none => trivial
  | some argument => exact htrail

/-- What a binding leads to is what its producer leads to, or an element of that. -/
theorem exists_trace_of_traceBinding {analysis : Analysis} {binding : Binding} {path : Path}
    (htrace : analysis.traceBinding binding = .ok path) :
    ∃ elementType, analysis.trace binding.producer elementType = .ok path := by
  unfold traceBinding at htrace
  cases hkind : binding.kind with
  | external =>
      rw [hkind] at htrace
      cases htrace
  | loopItem span =>
      rw [hkind] at htrace
      exact ⟨_, htrace⟩
  | ordinary =>
      rw [hkind] at htrace
      exact ⟨_, htrace⟩

/-! ### The trails of a walk -/

/-- The trail that a walk starts with, and the one that each of its steps leaves. -/
def trails (analysis : Analysis) : Nat → Trail → Expr Site → List Trail
  | 0, trail, _ => [trail]
  | steps + 1, trail, expr =>
    trail ::
      match analysis.step trail expr with
      | .error _ => []
      | .ok (longer, none) => [longer]
      | .ok (longer, some next) => analysis.trails steps longer next

theorem trails_ne_nil (analysis : Analysis) (steps : Nat) (trail : Trail) (expr : Expr Site) :
    analysis.trails steps trail expr ≠ [] := by
  cases steps <;> exact List.cons_ne_nil _ _

/-- The trail that tracing starts with: it is empty, or leads to an element. -/
def startTrail (analysis : Analysis) : Option TypeId → Trail
  | none => .empty
  | some ty => Trail.empty.push .index (analysis.isResizable ty)

theorem trace_eq_walk (analysis : Analysis) (expr : Expr Site) (elementType : Option TypeId) :
    analysis.trace expr elementType =
      analysis.walk analysis.maxSteps (analysis.startTrail elementType) expr := by
  cases elementType <;> rfl

/-- The path at the end of a walk is made of its last trail. -/
theorem exists_last_of_walk {analysis : Analysis} {steps : Nat} {trail : Trail}
    {expr : Expr Site} {path : Path} (hwalk : analysis.walk steps trail expr = .ok path) :
    ∃ last, (analysis.trails steps trail expr).getLast? = some last ∧ last.finish = path := by
  induction steps generalizing trail expr with
  | zero => cases hwalk
  | succ steps ih =>
      unfold walk at hwalk
      unfold trails
      generalize analysis.step trail expr = result at hwalk
      cases result with
      | error failure => cases hwalk
      | ok step =>
          obtain ⟨longer, next⟩ := step
          cases next with
          | none => exact ⟨longer, rfl, Except.ok.inj hwalk⟩
          | some next =>
              obtain ⟨last, hlast, hfinish⟩ := ih hwalk
              refine ⟨last, ?_, hfinish⟩
              rw [List.getLast?_cons_of_ne_nil (analysis.trails_ne_nil steps longer next), hlast]

namespace Preserves

variable {analysis : Analysis} {holds : Trail → Prop} (hholds : analysis.Preserves holds)
include hholds

section Step

variable {trail : Trail} (htrail : holds trail)
include htrail

theorem gives_stepLocal (expr : Expr Site) (target : LocalId) (declared : LocalDecl Site) :
    TraceStep.Gives holds (analysis.stepLocal expr target declared trail) := by
  unfold stepLocal
  cases declared.kind with
  | value => exact hholds.push _ _ htrail
  | scopeHandle => exact hholds.scope (hholds.push _ _ htrail)
  | ref =>
      cases analysis.body.resolve? expr with
      | none => trivial
      | some binding =>
          obtain ⟨target, producer, kind, span, position⟩ := binding
          cases kind with
          | external => trivial
          | loopItem body => exact hholds.push _ _ htrail
          | ordinary => exact htrail

theorem gives_stepCall (id : MethodId) (method : Method Site) (args : List (PassMode × Expr Site))
    (ty : TypeId) : TraceStep.Gives holds (analysis.stepCall id method args ty trail) := by
  unfold stepCall
  cases method.kind with
  | elementAccessor => exact gives_stepArgument (hholds.push _ ty htrail) method args 0
  | viewConversion => exact gives_stepArgument (hholds.push _ ty htrail) method args 0
  | slice =>
      cases htemplate : analysis.templates.get? id with
      | none => exact gives_stepArgument htrail method args 0
      | some parsed =>
          cases parsed with
          | error cause => trivial
          | ok template => exact gives_stepArgument (hholds.splice htemplate htrail) method args _
  | plain =>
      cases htemplate : analysis.templates.get? id with
      | none => trivial
      | some parsed =>
          cases parsed with
          | error cause => trivial
          | ok template => exact gives_stepArgument (hholds.splice htemplate htrail) method args _

theorem gives_step (expr : Expr Site) : TraceStep.Gives holds (analysis.step trail expr) := by
  cases expr with
  | literal | computed => trivial
  | staticField | field | index => exact hholds.push _ _ htrail
  | slice | scopeValue => exact htrail
  | param site target =>
      rw [step]
      cases analysis.body.params[target]? with
      | none => trivial
      | some declared => exact hholds.push _ _ htrail
  | localVar site target =>
      rw [step]
      cases analysis.body.locals[target]? with
      | none => trivial
      | some declared => exact hholds.gives_stepLocal htrail _ target declared
  | call site id args ty =>
      rw [step]
      cases analysis.program.methods[id]? with
      | none => trivial
      | some method => exact hholds.gives_stepCall htrail id method args ty

end Step

/-- Every trail of a walk has the property that the first one has. -/
theorem holds_of_mem_trails {steps : Nat} {trail visited : Trail} {expr : Expr Site}
    (htrail : holds trail) (hvisited : visited ∈ analysis.trails steps trail expr) :
    holds visited := by
  induction steps generalizing trail expr with
  | zero =>
      obtain rfl := List.mem_singleton.mp hvisited
      exact htrail
  | succ steps ih =>
      have hgives := hholds.gives_step htrail expr
      unfold trails at hvisited
      generalize analysis.step trail expr = result at hgives hvisited
      rcases List.mem_cons.mp hvisited with rfl | hlater
      · exact htrail
      · cases result with
        | error failure => cases hlater
        | ok step =>
            obtain ⟨longer, next⟩ := step
            cases next with
            | none =>
                obtain rfl := List.mem_singleton.mp hlater
                exact hgives
            | some next => exact ih hgives hlater

/-- The path at the end of a walk is made of a trail that has the property. -/
theorem exists_trail_of_walk {steps : Nat} {trail : Trail} {expr : Expr Site} {path : Path}
    (htrail : holds trail) (hwalk : analysis.walk steps trail expr = .ok path) :
    ∃ last, holds last ∧ last.finish = path := by
  obtain ⟨last, hlast, hfinish⟩ := exists_last_of_walk hwalk
  exact ⟨last, hholds.holds_of_mem_trails htrail (List.mem_of_getLast? hlast), hfinish⟩

variable (hempty : holds .empty)
include hempty

theorem holds_startTrail (elementType : Option TypeId) :
    holds (analysis.startTrail elementType) := by
  cases elementType with
  | none => exact hempty
  | some ty => exact hholds.push .index ty hempty

theorem exists_trail_of_trace {expr : Expr Site} {elementType : Option TypeId} {path : Path}
    (htrace : analysis.trace expr elementType = .ok path) :
    ∃ last, holds last ∧ last.finish = path := by
  rw [trace_eq_walk] at htrace
  exact hholds.exists_trail_of_walk (hholds.holds_startTrail hempty elementType) htrace

theorem exists_trail_of_traceBinding {binding : Binding} {path : Path}
    (htrace : analysis.traceBinding binding = .ok path) :
    ∃ last, holds last ∧ last.finish = path := by
  obtain ⟨_, hproducer⟩ := exists_trace_of_traceBinding htrace
  exact hholds.exists_trail_of_trace hempty hproducer

end Preserves

end Analysis

end RefStability
