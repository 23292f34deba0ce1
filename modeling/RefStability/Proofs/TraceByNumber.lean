import RefStability.Proofs.ByNumber
import RefStability.Proofs.StepBound
import RefStability.Proofs.WalkInvariant
import RefStability.Proofs.WithinBounds

/-!
# Tracing by number

Here a walk goes from number to number: each expression, local, parameter, type and method on the
way is looked up, and the counts of a trail are subtracted only where the difference exists. In a
body whose numbers are in range such a walk has a result, which is that of the walk along the tree.
-/

namespace RefStability

/-! ### Trails -/

namespace Trail

def splice? (trail : Trail) (template : Template) : Option Trail := do
  let segments := template.segments ++ trail.segments
  if trail.isClosed then return { trail with segments }
  else
    match ← template.fixedSuffix? with
    | some fixed =>
      return { trail with segments, fixedSuffix := trail.fixedSuffix + fixed, isClosed := true }
    | none =>
      return { trail with segments, fixedSuffix := trail.fixedSuffix + template.segments.length }

def finish? (trail : Trail) : Option Path := do
  let boundary ← subtract? trail.segments.length trail.fixedSuffix
  return .ofSegments trail.segments boundary trail.isScoped

theorem splice?_eq (trail : Trail) (template : Template) :
    trail.splice? template = some (trail.splice template) := by
  obtain ⟨segments, fixedSuffix, isClosed, isScoped⟩ := trail
  rw [splice?, splice, template.fixedSuffix?_eq, Template.fixedSuffix]
  cases isClosed with
  | true => rfl
  | false => cases template.boundary <;> rfl

theorem Valid.finish?_eq {trail : Trail} (htrail : trail.Valid) :
    trail.finish? = some trail.finish := by
  rw [finish?, subtract?_of_le htrail.fixedSuffix_le]
  rfl

theorem Valid.scoped {trail : Trail} (htrail : trail.Valid) :
    { trail with isScoped := true }.Valid :=
  ⟨htrail.fixedSuffix_le, htrail.isOpen⟩

end Trail

/-! ### Walks -/

namespace Analysis

section Walks

variable (analysis : Analysis) (events : List Event)

def resizable? (ty : TypeId) : Option Bool := (analysis.program.types[ty]?).map (·.isResizable)

def stepLocal? (number : Nat) (target : LocalId) (trail : Trail) :
    Option (Except TraceFailure TraceStep) := do
  let declared ← analysis.body.locals[target]?
  match declared.kind with
  | .value =>
    let isResizable ← analysis.resizable? declared.ty
    return .ok (trail.push (.name declared.name) isResizable, none)
  | .scopeHandle =>
    let isResizable ← analysis.resizable? declared.ty
    return .ok ({ trail.push (.name declared.name) isResizable with isScoped := true }, none)
  | .ref =>
    match ← analysis.body.resolveBy? events number with
    | none => return .error (.unresolved target)
    | some binding =>
      match binding.kind with
      | .external => return .error (.externalBinding target)
      | .loopItem _ =>
        let isResizable ← analysis.resizable? declared.ty
        return .ok (trail.push .index isResizable, some binding.producer)
      | .ordinary => return .ok (trail, some binding.producer)

def stepCall? (id : MethodId) (args : List (PassMode × Expr Site)) (ty : TypeId) (trail : Trail) :
    Option (Except TraceFailure TraceStep) := do
  let method ← analysis.program.methods[id]?
  match method.kind with
  | .elementAccessor =>
    let isResizable ← analysis.resizable? ty
    return stepArgument method args 0 (trail.push .index isResizable)
  | .viewConversion =>
    let isResizable ← analysis.resizable? ty
    return stepArgument method args 0 (trail.push (.call method.name) isResizable)
  | kind =>
    match analysis.templates.get? id with
    | some (.ok template) =>
      let spliced ← trail.splice? template
      return stepArgument method args template.rootIndex spliced
    | some (.error _) => return .error (.rejectedTemplate method.signature)
    | none =>
      if kind = .slice then return stepArgument method args 0 trail
      else return .error (.unmodelledCall method.signature)

/-- One step from the expression with the given number. -/
def step? (trail : Trail) (number : Nat) : Option (Except TraceFailure TraceStep) := do
  match ← analysis.body.exprs[number]? with
  | .literal _ => return .error (.unsupported number)
  | .computed _ _ _ => return .error (.unsupported number)
  | .localVar _ target => analysis.stepLocal? events number target trail
  | .param _ target =>
    let declared ← analysis.body.params[target]?
    let isResizable ← analysis.resizable? declared.ty
    return .ok (trail.push (.name declared.name) isResizable, none)
  | .staticField _ name ty =>
    let isResizable ← analysis.resizable? ty
    return .ok (trail.push (.name name) isResizable, none)
  | .field _ receiver name ty =>
    let isResizable ← analysis.resizable? ty
    return .ok (trail.push (.name name) isResizable, some receiver)
  | .index _ receiver _ ty =>
    let isResizable ← analysis.resizable? ty
    return .ok (trail.push .index isResizable, some receiver)
  | .slice _ receiver _ _ => return .ok (trail, some receiver)
  | .scopeValue _ scope _ => return .ok (trail, some scope)
  | .call _ id args ty => analysis.stepCall? id args ty trail

def walk? : Nat → Trail → Nat → Option (Except TraceFailure Path)
  | 0, _, _ => some (.error (.stepLimit analysis.maxSteps))
  | steps + 1, trail, number => do
    match ← analysis.step? events trail number with
    | .error failure => return .error failure
    | .ok (longer, none) => return .ok (← longer.finish?)
    | .ok (longer, some next) => walk? steps longer next.label.index

def trace? (number : Nat) (elementType : Option TypeId) : Option (Except TraceFailure Path) := do
  match elementType with
  | none => analysis.walk? events analysis.maxSteps .empty number
  | some ty =>
    let isResizable ← analysis.resizable? ty
    analysis.walk? events analysis.maxSteps (Trail.empty.push .index isResizable) number

def traceBinding? (binding : Binding) : Option (Except TraceFailure Path) := do
  match binding.kind with
  | .external => return .error (.externalBinding binding.target)
  | .loopItem _ =>
    let declared ← analysis.body.locals[binding.target]?
    analysis.trace? events binding.producer.label.index (some declared.ty)
  | .ordinary => analysis.trace? events binding.producer.label.index none

end Walks

/-! ### Steps keep trails valid -/

/-- The trail after the step, if the step does not fail, is valid. -/
def StepsValidly : Except TraceFailure TraceStep → Prop
  | .error _ => True
  | .ok (longer, _) => longer.Valid

theorem preserves_valid (analysis : Analysis) : analysis.Preserves Trail.Valid where
  push segment _ htrail := Trail.valid_push htrail segment _
  splice _ htrail := Trail.valid_splice htrail _
  scope htrail := htrail.scoped

theorem stepsValidly_step (analysis : Analysis) {trail : Trail} (htrail : trail.Valid)
    (expr : Expr Site) : StepsValidly (analysis.step trail expr) :=
  analysis.preserves_valid.gives_step htrail expr

/-! ### Results -/

end Analysis

/-- The local of an event is one of those of the body. -/
theorem Body.Grounded.target_lt {program : Program Site} {body : Body Site}
    (hgrounded : body.Grounded program) {event : Event} (hevent : event ∈ body.events) :
    event.target < body.locals.length := by
  cases body.events_from _ hevent with
  | _ hnode => exact hgrounded.inRange _ hnode

namespace Analysis

/-- The body lies in order, and its numbers are in range. -/
structure WellFormed (analysis : Analysis) : Prop where
  laid : analysis.body.IsLaid
  order : analysis.body.InSourceOrder
  grounded : analysis.body.Grounded analysis.program

theorem resizable?_eq (analysis : Analysis) {ty : TypeId}
    (hty : ty < analysis.program.types.length) :
    analysis.resizable? ty = some (analysis.isResizable ty) := by
  rw [resizable?, isResizable, Program.isResizable, List.getElem?_eq_getElem hty, Option.map_some,
    Option.any_some]

theorem stepCall?_eq (analysis : Analysis) {id : MethodId} {method : Method Site} {ty : TypeId}
    (hmethod : analysis.program.methods[id]? = some method)
    (hty : ty < analysis.program.types.length) (args : List (PassMode × Expr Site))
    (trail : Trail) :
    analysis.stepCall? id args ty trail = some (analysis.stepCall id method args ty trail) := by
  have hresizable := analysis.resizable?_eq hty
  simp only [stepCall?, stepCall, hmethod, Option.bind_eq_bind, Option.bind_some, hresizable,
    Option.pure_def]
  cases method.kind with
  | elementAccessor => rfl
  | viewConversion => rfl
  | slice | plain =>
      cases analysis.templates.get? id with
      | none => rfl
      | some parsed =>
          cases parsed with
          | error cause => rfl
          | ok template =>
              simp only [trail.splice?_eq template, Option.bind_some]

namespace WellFormed

variable {analysis : Analysis} (hanalysis : analysis.WellFormed)
include hanalysis

theorem stepLocal?_eq {number : Nat} {expr : Expr Site} {target : LocalId}
    {declared : LocalDecl Site} (hexpr : analysis.body.exprs[number]? = some expr)
    (hlocal : analysis.body.locals[target]? = some declared) (trail : Trail) :
    analysis.stepLocal? analysis.body.events number target trail =
      some (analysis.stepLocal expr target declared trail) := by
  have hresizable := analysis.resizable?_eq
    (hanalysis.grounded.locals declared (List.mem_of_getElem? hlocal))
  simp only [stepLocal?, stepLocal, hlocal, Option.bind_eq_bind, Option.bind_some, hresizable,
    Body.resolveBy?_eq hexpr, Option.pure_def]
  cases declared.kind with
  | value => rfl
  | scopeHandle => rfl
  | ref =>
      cases analysis.body.resolve? expr with
      | none => rfl
      | some binding =>
          obtain ⟨target, producer, kind, span, position⟩ := binding
          cases kind <;> rfl

theorem step?_eq (trail : Trail) {number : Nat} {expr : Expr Site}
    (hexpr : analysis.body.exprs[number]? = some expr) :
    analysis.step? analysis.body.events trail number = some (analysis.step trail expr) := by
  have hnumber : expr.label.index = number := hanalysis.laid.index_eq_of_getElem? hexpr
  have hrange := hanalysis.grounded.inRange _
    ((analysis.body.mem_exprs_iff expr).mp (List.mem_of_getElem? hexpr))
  rw [step?, hexpr, Option.bind_eq_bind, Option.bind_some]
  cases expr with
  | literal site =>
      subst hnumber
      rfl
  | computed site operands ty =>
      subst hnumber
      rfl
  | staticField site name ty | field site receiver name ty | index site receiver operands ty =>
      simp only [analysis.resizable?_eq hrange]
      rfl
  | slice site receiver operands ty => rfl
  | scopeValue site scope ty => rfl
  | param site target =>
      have hparam := List.getElem?_eq_getElem hrange
      have hty := hanalysis.grounded.params _ (List.mem_of_getElem? hparam)
      simp only [step, hparam, Option.bind_eq_bind, Option.bind_some, analysis.resizable?_eq hty,
        Option.pure_def]
  | localVar site target =>
      have hlocal := List.getElem?_eq_getElem hrange
      simp only [step, hlocal, hanalysis.stepLocal?_eq hexpr hlocal]
  | call site id args ty =>
      have hmethod := List.getElem?_eq_getElem hrange.1
      simp only [step, hmethod, analysis.stepCall?_eq hmethod hrange.2]

theorem walk?_eq (steps : Nat) {trail : Trail} (htrail : trail.Valid) {number : Nat}
    {expr : Expr Site} (hexpr : analysis.body.exprs[number]? = some expr) :
    analysis.walk? analysis.body.events steps trail number =
      some (analysis.walk steps trail expr) := by
  -- A step leads to an expression of the body and keeps the trail valid, so that the walk can be
  -- finished wherever it ends.
  induction steps generalizing trail number expr with
  | zero => rfl
  | succ steps ih =>
      have hvalid := analysis.stepsValidly_step htrail expr
      have hnext := analysis.stepsTo_step trail expr
      rw [walk?, walk, hanalysis.step?_eq trail hexpr, Option.bind_eq_bind, Option.bind_some]
      cases hstep : analysis.step trail expr with
      | error failure => rfl
      | ok result =>
          obtain ⟨longer, next⟩ := result
          rw [hstep] at hvalid hnext
          cases next with
          | none =>
              simp only [Trail.Valid.finish?_eq hvalid, Option.bind_eq_bind, Option.bind_some,
                Option.pure_def]
          | some next =>
              have hmem := (hnext.index_lt hanalysis.laid (List.mem_of_getElem? hexpr)).1
              exact ih hvalid (getElem?_of_numbered hanalysis.order.exprs_numbered hmem)

/-- Tracing by number gives the result of tracing along the tree. -/
theorem trace?_eq {number : Nat} {expr : Expr Site}
    (hexpr : analysis.body.exprs[number]? = some expr) {elementType : Option TypeId}
    (htype : ∀ ty ∈ elementType, ty < analysis.program.types.length) :
    analysis.trace? analysis.body.events number elementType =
      some (analysis.trace expr elementType) := by
  cases elementType with
  | none => exact hanalysis.walk?_eq _ Trail.valid_empty hexpr
  | some ty =>
      rw [trace?, analysis.resizable?_eq (htype ty rfl), Option.bind_eq_bind, Option.bind_some]
      exact hanalysis.walk?_eq _ (Trail.valid_push Trail.valid_empty _ _) hexpr

theorem trace?_none {expr : Expr Site} (hexpr : Node.expr expr ∈ analysis.body.nodes) :
    analysis.trace? analysis.body.events expr.label.index none =
      some (analysis.trace expr none) := by
  apply hanalysis.trace?_eq (hanalysis.order.getElem?_exprs hexpr)
  intro ty hty
  cases hty

theorem traceBinding?_eq {binding : Binding}
    (hevent : Event.bind binding ∈ analysis.body.events) :
    analysis.traceBinding? analysis.body.events binding =
      some (analysis.traceBinding binding) := by
  have hproducer := (analysis.body.events_from _ hevent).producer_node
  have htarget := hanalysis.grounded.target_lt hevent
  rw [traceBinding?, traceBinding]
  cases binding.kind with
  | external => rfl
  | ordinary => exact hanalysis.trace?_none hproducer
  | loopItem body =>
      have hlocal : analysis.body.locals[binding.target]? = some _ :=
        List.getElem?_eq_getElem htarget
      have hty := hanalysis.grounded.locals _ (List.mem_of_getElem? hlocal)
      simp only [hlocal, Option.bind_eq_bind, Option.bind_some, Option.map_some]
      apply hanalysis.trace?_eq (hanalysis.order.getElem?_exprs hproducer)
      intro ty hmem
      obtain rfl := Option.some.inj hmem
      exact hty

end WellFormed

end Analysis

end RefStability
