import RefStability.Path.Trace
import RefStability.Proofs.Resolution

/-!
# What an expression leads to

The path of an expression is given here by rules that read from the root to the leaf: an expression
is a root, fails, or extends the path of the one expression that it derives from. A walk finds the
segments leaf first and counts those after the boundary. It ends with the path that the rules give,
or with the failure that they give.
-/

namespace RefStability

namespace Path

def ofRoot (name : String) (isResizable isScoped : Bool) : Path :=
  ofSegments [.name name] (if isResizable then 1 else 0) isScoped

/-- A path that goes one segment further; resizable storage there moves the boundary. -/
def snoc (path : Path) (segment : Segment) (isResizable : Bool) : Path :=
  ofSegments (path.segments ++ [segment])
    (if isResizable then path.length + 1 else path.boundary) path.isScoped

def follow (path : Path) (template : Template) : Path :=
  ofSegments (path.segments ++ template.segments)
    (match template.boundary with
      | some boundary => path.length + boundary
      | none => path.boundary)
    path.isScoped

end Path

/-! ### The rules -/

namespace Analysis

section Rules

variable (analysis : Analysis)

/-- A call leads to what its argument at a position leads to, extended. -/
inductive CallDerives (id : MethodId) (method : Method Site) (ty : TypeId) :
    Nat → (Path → Path) → Prop
  | element (hkind : method.kind = .elementAccessor) :
      CallDerives id method ty 0 fun path => path.snoc .index (analysis.isResizable ty)
  | view (hkind : method.kind = .viewConversion) :
      CallDerives id method ty 0 fun path =>
        path.snoc (.call method.name) (analysis.isResizable ty)
  | template {template : Template} (hkind : method.kind = .slice ∨ method.kind = .plain)
      (htemplate : analysis.templates.get? id = some (.ok template)) :
      CallDerives id method ty template.rootIndex fun path => path.follow template
  | slice (hkind : method.kind = .slice) (htemplate : analysis.templates.get? id = none) :
      CallDerives id method ty 0 fun path => path

/-- An expression leads to what another one leads to, extended. -/
inductive Derives : Expr Site → Expr Site → (Path → Path) → Prop
  | field (site : Site) (receiver : Expr Site) (name : String) (ty : TypeId) :
      Derives (.field site receiver name ty) receiver fun path =>
        path.snoc (.name name) (analysis.isResizable ty)
  | index (site : Site) (receiver : Expr Site) (operands : List (Expr Site)) (ty : TypeId) :
      Derives (.index site receiver operands ty) receiver fun path =>
        path.snoc .index (analysis.isResizable ty)
  | slice (site : Site) (receiver : Expr Site) (operands : List (Expr Site)) (ty : TypeId) :
      Derives (.slice site receiver operands ty) receiver fun path => path
  | scopeValue (site : Site) (scope : Expr Site) (ty : TypeId) :
      Derives (.scopeValue site scope ty) scope fun path => path
  | ordinary {site : Site} {target : LocalId} {declared : LocalDecl Site} {binding : Binding}
      (hlocal : analysis.body.locals[target]? = some declared) (hkind : declared.kind = .ref)
      (hresolve : analysis.body.resolve? (.localVar site target) = some binding)
      (hbinding : binding.kind = .ordinary) :
      Derives (.localVar site target) binding.producer fun path => path
  | loopItem {site : Site} {target : LocalId} {declared : LocalDecl Site} {binding : Binding}
      {span : Span} (hlocal : analysis.body.locals[target]? = some declared)
      (hkind : declared.kind = .ref)
      (hresolve : analysis.body.resolve? (.localVar site target) = some binding)
      (hbinding : binding.kind = .loopItem span) :
      Derives (.localVar site target) binding.producer fun path =>
        path.snoc .index (analysis.isResizable declared.ty)
  | call {site : Site} {id : MethodId} {method : Method Site}
      {args : List (PassMode × Expr Site)} {ty : TypeId} {position : Nat} {mode : PassMode}
      {argument : Expr Site} {extend : Path → Path}
      (hmethod : analysis.program.methods[id]? = some method)
      (hcall : analysis.CallDerives id method ty position extend)
      (hargument : args[position]? = some (mode, argument)) :
      Derives (.call site id args ty) argument extend

/-- An expression derives from no other one: it names a root, or it cannot be traced. -/
inductive Stops : Expr Site → Except TraceFailure Path → Prop
  | value {site : Site} {target : LocalId} {declared : LocalDecl Site}
      (hlocal : analysis.body.locals[target]? = some declared) (hkind : declared.kind = .value) :
      Stops (.localVar site target)
        (.ok (.ofRoot declared.name (analysis.isResizable declared.ty) false))
  | scopeHandle {site : Site} {target : LocalId} {declared : LocalDecl Site}
      (hlocal : analysis.body.locals[target]? = some declared)
      (hkind : declared.kind = .scopeHandle) :
      Stops (.localVar site target)
        (.ok (.ofRoot declared.name (analysis.isResizable declared.ty) true))
  | param {site : Site} {target : ParamId} {declared : ParamDecl Site}
      (hparam : analysis.body.params[target]? = some declared) :
      Stops (.param site target)
        (.ok (.ofRoot declared.name (analysis.isResizable declared.ty) false))
  | staticField (site : Site) (name : String) (ty : TypeId) :
      Stops (.staticField site name ty) (.ok (.ofRoot name (analysis.isResizable ty) false))
  | literal (site : Site) : Stops (.literal site) (.error (.unsupported site.index))
  | computed (site : Site) (operands : List (Expr Site)) (ty : TypeId) :
      Stops (.computed site operands ty) (.error (.unsupported site.index))
  | unresolved {site : Site} {target : LocalId} {declared : LocalDecl Site}
      (hlocal : analysis.body.locals[target]? = some declared) (hkind : declared.kind = .ref)
      (hresolve : analysis.body.resolve? (.localVar site target) = none) :
      Stops (.localVar site target) (.error (.unresolved target))
  | external {site : Site} {target : LocalId} {declared : LocalDecl Site} {binding : Binding}
      (hlocal : analysis.body.locals[target]? = some declared) (hkind : declared.kind = .ref)
      (hresolve : analysis.body.resolve? (.localVar site target) = some binding)
      (hbinding : binding.kind = .external) :
      Stops (.localVar site target) (.error (.externalBinding target))
  | rejected {site : Site} {id : MethodId} {method : Method Site}
      {args : List (PassMode × Expr Site)} {ty : TypeId} {cause : TemplateError}
      (hmethod : analysis.program.methods[id]? = some method)
      (hkind : method.kind = .slice ∨ method.kind = .plain)
      (htemplate : analysis.templates.get? id = some (.error cause)) :
      Stops (.call site id args ty) (.error (.rejectedTemplate method.signature))
  | unmodelled {site : Site} {id : MethodId} {method : Method Site}
      {args : List (PassMode × Expr Site)} {ty : TypeId}
      (hmethod : analysis.program.methods[id]? = some method) (hkind : method.kind = .plain)
      (htemplate : analysis.templates.get? id = none) :
      Stops (.call site id args ty) (.error (.unmodelledCall method.signature))
  | missing {site : Site} {id : MethodId} {method : Method Site}
      {args : List (PassMode × Expr Site)} {ty : TypeId} {position : Nat} {extend : Path → Path}
      (hmethod : analysis.program.methods[id]? = some method)
      (hcall : analysis.CallDerives id method ty position extend)
      (hargument : args[position]? = none) :
      Stops (.call site id args ty) (.error (.missingArgument method.signature position))
  -- The numbers of a lowered program are never out of range; the rules are total without that.
  | unknownLocal {site : Site} {target : LocalId}
      (hlocal : analysis.body.locals[target]? = none) :
      Stops (.localVar site target) (.error (.unsupported site.index))
  | unknownParam {site : Site} {target : ParamId}
      (hparam : analysis.body.params[target]? = none) :
      Stops (.param site target) (.error (.unsupported site.index))
  | unknownMethod {site : Site} {id : MethodId} {args : List (PassMode × Expr Site)} {ty : TypeId}
      (hmethod : analysis.program.methods[id]? = none) :
      Stops (.call site id args ty) (.error (.unsupported site.index))

/-- What an expression leads to. -/
inductive Denotes : Expr Site → Except TraceFailure Path → Prop
  | stops {expr : Expr Site} {result : Except TraceFailure Path}
      (hstops : analysis.Stops expr result) : Denotes expr result
  | derives {expr next : Expr Site} {extend : Path → Path} {result : Except TraceFailure Path}
      (hderives : analysis.Derives expr next extend) (hnext : Denotes next result) :
      Denotes expr (result.map extend)

end Rules

/-! ### Every expression has a rule -/

variable {analysis : Analysis}

theorem stops_or_derives_call {id : MethodId} {method : Method Site} (site : Site)
    (args : List (PassMode × Expr Site)) (ty : TypeId)
    (hmethod : analysis.program.methods[id]? = some method) :
    (∃ result, analysis.Stops (.call site id args ty) result) ∨
      ∃ next extend, analysis.Derives (.call site id args ty) next extend := by
  have hargument : ∀ position extend, analysis.CallDerives id method ty position extend →
      (∃ result, analysis.Stops (.call site id args ty) result) ∨
        ∃ next extend, analysis.Derives (.call site id args ty) next extend := by
    intro position extend hcall
    cases hargument : args[position]? with
    | none => exact .inl ⟨_, .missing hmethod hcall hargument⟩
    | some argument => exact .inr ⟨_, _, .call hmethod hcall hargument⟩
  have htemplate : method.kind = .slice ∨ method.kind = .plain →
      (∃ result, analysis.Stops (.call site id args ty) result) ∨
        ∃ next extend, analysis.Derives (.call site id args ty) next extend := by
    intro hkind
    cases htemplate : analysis.templates.get? id with
    | none =>
        rcases hkind with hkind | hkind
        · exact hargument _ _ (.slice hkind htemplate)
        · exact .inl ⟨_, .unmodelled hmethod hkind htemplate⟩
    | some parsed =>
        cases parsed with
        | error cause => exact .inl ⟨_, .rejected hmethod hkind htemplate⟩
        | ok template => exact hargument _ _ (.template hkind htemplate)
  cases hkind : method.kind with
  | elementAccessor => exact hargument _ _ (.element hkind)
  | viewConversion => exact hargument _ _ (.view hkind)
  | slice => exact htemplate (.inl hkind)
  | plain => exact htemplate (.inr hkind)

theorem stops_or_derives_local (site : Site) (target : LocalId) :
    (∃ result, analysis.Stops (.localVar site target) result) ∨
      ∃ next extend, analysis.Derives (.localVar site target) next extend := by
  cases hlocal : analysis.body.locals[target]? with
  | none => exact .inl ⟨_, .unknownLocal hlocal⟩
  | some declared =>
      cases hkind : declared.kind with
      | value => exact .inl ⟨_, .value hlocal hkind⟩
      | scopeHandle => exact .inl ⟨_, .scopeHandle hlocal hkind⟩
      | ref =>
          cases hresolve : analysis.body.resolve? (.localVar site target) with
          | none => exact .inl ⟨_, .unresolved hlocal hkind hresolve⟩
          | some binding =>
              cases hbinding : binding.kind with
              | external => exact .inl ⟨_, .external hlocal hkind hresolve hbinding⟩
              | ordinary => exact .inr ⟨_, _, .ordinary hlocal hkind hresolve hbinding⟩
              | loopItem span => exact .inr ⟨_, _, .loopItem hlocal hkind hresolve hbinding⟩

theorem stops_or_derives (analysis : Analysis) (expr : Expr Site) :
    (∃ result, analysis.Stops expr result) ∨
      ∃ next extend, analysis.Derives expr next extend := by
  cases expr with
  | literal site => exact .inl ⟨_, .literal site⟩
  | computed site operands ty => exact .inl ⟨_, .computed site operands ty⟩
  | staticField site name ty => exact .inl ⟨_, .staticField site name ty⟩
  | field site receiver name ty => exact .inr ⟨_, _, .field site receiver name ty⟩
  | index site receiver operands ty => exact .inr ⟨_, _, .index site receiver operands ty⟩
  | slice site receiver operands ty => exact .inr ⟨_, _, .slice site receiver operands ty⟩
  | scopeValue site scope ty => exact .inr ⟨_, _, .scopeValue site scope ty⟩
  | localVar site target => exact stops_or_derives_local site target
  | param site target =>
      cases hparam : analysis.body.params[target]? with
      | none => exact .inl ⟨_, .unknownParam hparam⟩
      | some declared => exact .inl ⟨_, .param hparam⟩
  | call site id args ty =>
      cases hmethod : analysis.program.methods[id]? with
      | none => exact .inl ⟨_, .unknownMethod hmethod⟩
      | some method => exact stops_or_derives_call site args ty hmethod

end Analysis

/-! ### Expressions derive from earlier ones -/

theorem Event.From.producer_node {body : Body Site} {binding : Binding}
    (hfrom : (Event.bind binding).From body.nodes) : Node.expr binding.producer ∈ body.nodes := by
  cases hfrom with
  | out hnode => exact hnode
  | declare hnode => exact Body.mem_nodes_of_part hnode (List.mem_singleton_self _)
  | rebind hnode => exact Body.mem_nodes_of_part hnode (List.mem_singleton_self _)
  | item hnode => exact Body.mem_nodes_of_part hnode List.mem_cons_self

namespace Body.IsLaid

variable {body : Body Site}

theorem producer_stop_le (hlaid : body.IsLaid) {binding : Binding}
    (hevent : Event.bind binding ∈ body.events) :
    binding.producer.span.stop ≤ binding.position := by
  cases body.events_from _ hevent with
  | out hnode => exact Nat.le_refl _
  | declare hnode =>
      exact Nat.le_of_lt (hlaid.part_between hnode (List.mem_singleton_self _)).2
  | rebind hnode =>
      exact Nat.le_of_lt (hlaid.part_between hnode (List.mem_singleton_self _)).2
  | item hnode => exact Nat.le_refl _

theorem producer_index_lt (hlaid : body.IsLaid) {expr : Expr Site} {binding : Binding}
    (hexpr : expr ∈ body.exprs) (hresolve : body.resolve? expr = some binding) :
    binding.producer ∈ body.exprs ∧ binding.producer.label.index < expr.label.index := by
  have hevent := (Body.resolve?_mem_events hresolve).1
  have hproducer : binding.producer ∈ body.exprs := by
    rw [Body.mem_exprs_iff]
    exact (body.events_from _ hevent).producer_node
  refine ⟨hproducer, hlaid.index_lt_of_stop_lt hproducer hexpr ?_⟩
  have hstart : expr.span.start < expr.span.stop :=
    (hlaid.nodes_between ((Body.mem_exprs_iff body expr).mp hexpr)).1
  calc binding.producer.span.stop ≤ binding.position := hlaid.producer_stop_le hevent
    _ ≤ expr.span.start := Body.resolve?_position_le hresolve
    _ < expr.span.stop := hstart

end Body.IsLaid

namespace Analysis

variable {analysis : Analysis} {expr next : Expr Site} {extend : Path → Path}

theorem Derives.index_lt (hderives : analysis.Derives expr next extend)
    (hlaid : analysis.body.IsLaid) (hexpr : expr ∈ analysis.body.exprs) :
    next ∈ analysis.body.exprs ∧ next.label.index < expr.label.index := by
  have hpart : next ∈ expr.parts →
      next ∈ analysis.body.exprs ∧ next.label.index < expr.label.index := fun hpart =>
    ⟨Body.IsLaid.part_mem_exprs hexpr hpart, hlaid.part_index_lt hexpr hpart⟩
  cases hderives with
  | field | index | slice | scopeValue => exact hpart List.mem_cons_self
  | ordinary hlocal hkind hresolve hbinding => exact hlaid.producer_index_lt hexpr hresolve
  | loopItem hlocal hkind hresolve hbinding => exact hlaid.producer_index_lt hexpr hresolve
  | call hmethod hcall hargument =>
      exact hpart (List.mem_map_of_mem (List.mem_of_getElem? hargument))

theorem exists_denotes (hlaid : analysis.body.IsLaid) (expr : Expr Site)
    (hexpr : expr ∈ analysis.body.exprs) : ∃ result, analysis.Denotes expr result := by
  -- What a local is bound to is no part of it, so the recursion is on the numbers of expressions.
  rcases stops_or_derives analysis expr with ⟨result, hstops⟩ | ⟨next, extend, hderives⟩
  · exact ⟨result, .stops hstops⟩
  · obtain ⟨hnext, hlt⟩ := hderives.index_lt hlaid hexpr
    obtain ⟨result, hdenotes⟩ := exists_denotes hlaid next hnext
    exact ⟨result.map extend, .derives hderives hdenotes⟩
termination_by expr.label.index

end Analysis

/-! ### What a trail adds to a path -/

namespace Trail

/-- What the segments of a trail make of the path of the expression that is still to be traced. -/
def after (trail : Trail) (path : Path) : Path :=
  .ofSegments (path.segments ++ trail.segments)
    (if trail.isClosed then path.length + (trail.segments.length - trail.fixedSuffix)
      else path.boundary)
    (trail.isScoped || path.isScoped)

/-- As long as the boundary is not known, all segments lie after it. -/
structure Valid (trail : Trail) : Prop where
  fixedSuffix_le : trail.fixedSuffix ≤ trail.segments.length
  isOpen : trail.isClosed = false → trail.fixedSuffix = trail.segments.length

theorem valid_empty : empty.Valid := ⟨Nat.le_refl _, fun _ => rfl⟩

variable {trail : Trail} (htrail : trail.Valid)
include htrail

theorem valid_push (segment : Segment) (isResizable : Bool) :
    (trail.push segment isResizable).Valid := by
  obtain ⟨hle, hopen⟩ := htrail
  constructor
  · simp only [push, List.length_cons]
    split <;> omega
  · intro hclosed
    obtain ⟨hclosed, hfixed⟩ := Bool.or_eq_false_iff.mp hclosed
    simp [push, hclosed, hfixed, hopen hclosed]

theorem valid_splice (template : Template) : (trail.splice template).Valid := by
  obtain ⟨hle, hopen⟩ := htrail
  constructor
  · simp only [splice, Template.fixedSuffix, List.length_append]
    cases template.boundary <;> simp <;> split <;> omega
  · intro hclosed
    obtain ⟨hclosed, hfixed⟩ := Bool.or_eq_false_iff.mp hclosed
    rw [Option.isSome_eq_false_iff, Option.isNone_iff_eq_none] at hfixed
    simp [splice, Template.fixedSuffix, hclosed, hfixed, hopen hclosed, Nat.add_comm]

theorem after_push (path : Path) (segment : Segment) (isResizable : Bool) :
    (trail.push segment isResizable).after path = trail.after (path.snoc segment isResizable) := by
  obtain ⟨hle, hopen⟩ := htrail
  have hboundary := path.boundary_le
  apply Path.ext
  · simp [after, push, Path.snoc, Path.ofSegments]
  · cases hclosed : trail.isClosed with
    | true =>
        simp [after, push, Path.snoc, Path.ofSegments, Path.length, hclosed]
        omega
    | false =>
        have hsuffix := hopen hclosed
        cases isResizable with
        | true => simp [after, push, Path.snoc, Path.ofSegments, Path.length, hclosed, hsuffix]
        | false =>
            simp [after, push, Path.snoc, Path.ofSegments, hclosed, hsuffix]
            omega
  · rfl

theorem after_splice (path : Path) (template : Template) :
    (trail.splice template).after path = trail.after (path.follow template) := by
  obtain ⟨hle, hopen⟩ := htrail
  have hboundary := path.boundary_le
  apply Path.ext
  · simp [after, splice, Path.follow, Path.ofSegments]
  · cases hclosed : trail.isClosed with
    | true =>
        simp [after, splice, Path.follow, Path.ofSegments, Path.length, hclosed]
        omega
    | false =>
        have hsuffix := hopen hclosed
        cases htemplate : template.boundary <;>
          simp [after, splice, Path.follow, Path.ofSegments, Path.length, Template.fixedSuffix,
            hclosed, hsuffix, htemplate] <;> omega
  · rfl

theorem finish_push (name : String) (isResizable : Bool) :
    (trail.push (.name name) isResizable).finish =
      trail.after (.ofRoot name isResizable false) := by
  obtain ⟨hle, hopen⟩ := htrail
  apply Path.ext
  · rfl
  · cases hclosed : trail.isClosed with
    | true =>
        simp [finish, after, push, Path.ofRoot, Path.ofSegments, Path.length, hclosed]
        omega
    | false =>
        have hsuffix := hopen hclosed
        cases isResizable <;>
          simp [finish, after, push, Path.ofRoot, Path.ofSegments, hclosed, hsuffix]
  · simp [finish, after, push, Path.ofRoot, Path.ofSegments]

theorem finish_push_scoped (name : String) (isResizable : Bool) :
    { trail.push (.name name) isResizable with isScoped := true }.finish =
      trail.after (.ofRoot name isResizable true) := by
  have hplain := finish_push htrail name isResizable
  have hsegments := congrArg Path.segments hplain
  have hboundary := congrArg Path.boundary hplain
  apply Path.ext
  · exact hsegments
  · exact hboundary
  · simp [finish, after, Path.ofRoot, Path.ofSegments]

end Trail

/-! ### The walk ends with what the rules give -/

theorem Trail.after_empty (path : Path) : Trail.empty.after path = path := by
  have hboundary := path.boundary_le
  apply Path.ext
  · simp [after, empty, Path.ofSegments]
  · simp [after, empty, Path.ofSegments, hboundary]
  · rfl

namespace Analysis

variable {analysis : Analysis} {expr next : Expr Site} {extend : Path → Path}
  {result : Except TraceFailure Path} {trail : Trail}

theorem CallDerives.stepCall_eq {id : MethodId} {method : Method Site} {ty : TypeId}
    {position : Nat} (hcall : analysis.CallDerives id method ty position extend)
    (htrail : trail.Valid) (args : List (PassMode × Expr Site)) :
    ∃ longer : Trail, longer.Valid ∧ (∀ path, longer.after path = trail.after (extend path)) ∧
      analysis.stepCall id method args ty trail = stepArgument method args position longer := by
  cases hcall with
  | element hkind =>
      refine ⟨_, Trail.valid_push htrail _ _, fun path => Trail.after_push htrail path _ _, ?_⟩
      simp only [stepCall, hkind]
  | view hkind =>
      refine ⟨_, Trail.valid_push htrail _ _, fun path => Trail.after_push htrail path _ _, ?_⟩
      simp only [stepCall, hkind]
  | template hkind htemplate =>
      refine ⟨_, Trail.valid_splice htrail _, fun path => Trail.after_splice htrail path _, ?_⟩
      rcases hkind with hkind | hkind <;> simp only [stepCall, hkind, htemplate]
  | slice hkind htemplate =>
      refine ⟨trail, htrail, fun path => rfl, ?_⟩
      simp only [stepCall, hkind, htemplate, if_true]

/-- A step goes to the expression that the traced one derives from; what it puts on the trail
extends every path as the rule says. -/
theorem Derives.step_eq (hderives : analysis.Derives expr next extend) (htrail : trail.Valid) :
    ∃ longer : Trail, longer.Valid ∧ (∀ path, longer.after path = trail.after (extend path)) ∧
      analysis.step trail expr = .ok (longer, some next) := by
  cases hderives with
  | field | index =>
      exact ⟨_, Trail.valid_push htrail _ _, fun path => Trail.after_push htrail path _ _, rfl⟩
  | slice | scopeValue => exact ⟨trail, htrail, fun path => rfl, rfl⟩
  | ordinary hlocal hkind hresolve hbinding =>
      refine ⟨trail, htrail, fun path => rfl, ?_⟩
      simp only [step, hlocal, stepLocal, hkind, hresolve, hbinding]
  | loopItem hlocal hkind hresolve hbinding =>
      refine ⟨_, Trail.valid_push htrail _ _, fun path => Trail.after_push htrail path _ _, ?_⟩
      simp only [step, hlocal, stepLocal, hkind, hresolve, hbinding]
  | @call site id method args ty position mode argument extend hmethod hcall hargument =>
      obtain ⟨longer, hlonger, hafter, hstep⟩ := hcall.stepCall_eq htrail args
      refine ⟨longer, hlonger, hafter, ?_⟩
      simp only [step, hmethod, hstep, stepArgument, hargument]

theorem Stops.walk_eq (hstops : analysis.Stops expr result) (htrail : trail.Valid) (steps : Nat) :
    analysis.walk (steps + 1) trail expr = result.map trail.after := by
  cases hstops with
  | value hlocal hkind =>
      simp only [walk, step, hlocal, stepLocal, hkind, Trail.finish_push htrail, Except.map]
  | scopeHandle hlocal hkind =>
      simp only [walk, step, hlocal, stepLocal, hkind, Trail.finish_push_scoped htrail, Except.map]
  | param hparam => simp only [walk, step, hparam, Trail.finish_push htrail, Except.map]
  | staticField site name ty => simp only [walk, step, Trail.finish_push htrail, Except.map]
  | literal | computed => rfl
  | unresolved hlocal hkind hresolve =>
      simp only [walk, step, hlocal, stepLocal, hkind, hresolve, Except.map]
  | external hlocal hkind hresolve hbinding =>
      simp only [walk, step, hlocal, stepLocal, hkind, hresolve, hbinding, Except.map]
  | rejected hmethod hkind htemplate =>
      rcases hkind with hkind | hkind <;>
        simp only [walk, step, hmethod, stepCall, hkind, htemplate, Except.map]
  | unmodelled hmethod hkind htemplate =>
      simp only [walk, step, hmethod, stepCall, hkind, htemplate, Except.map]
      rfl
  | @missing site id method args ty position extend hmethod hcall hargument =>
      obtain ⟨longer, _, _, hstep⟩ := hcall.stepCall_eq htrail args
      simp only [walk, step, hmethod, hstep, stepArgument, hargument, Except.map]
  | unknownLocal hlocal => simp only [walk, step, hlocal, Except.map]
  | unknownParam hparam => simp only [walk, step, hparam, Except.map]
  | unknownMethod hmethod => simp only [walk, step, hmethod, Except.map]

/-- A walk with any trail behind it puts that trail after what the expression leads to. -/
theorem Denotes.walk_eq (hdenotes : analysis.Denotes expr result) (hlaid : analysis.body.IsLaid)
    (hexpr : expr ∈ analysis.body.exprs) {steps : Nat} (hsteps : expr.label.index < steps)
    (htrail : trail.Valid) : analysis.walk steps trail expr = result.map trail.after := by
  -- Every step passes a longer trail on, so the induction is for all trails.
  induction hdenotes generalizing steps trail with
  | stops hstops =>
      obtain ⟨steps, rfl⟩ := Nat.exists_eq_succ_of_ne_zero (Nat.ne_zero_of_lt hsteps)
      exact hstops.walk_eq htrail steps
  | @derives expr next extend result hderives hnext ih =>
      obtain ⟨steps, rfl⟩ := Nat.exists_eq_succ_of_ne_zero (Nat.ne_zero_of_lt hsteps)
      obtain ⟨hmem, hlt⟩ := hderives.index_lt hlaid hexpr
      obtain ⟨longer, hlonger, hafter, hstep⟩ := hderives.step_eq htrail
      simp only [walk, hstep]
      rw [ih hmem (by omega) hlonger]
      cases result with
      | error failure => rfl
      | ok path => exact congrArg Except.ok (hafter path)

theorem Denotes.trace_eq (hdenotes : analysis.Denotes expr result) (hlaid : analysis.body.IsLaid)
    (hexpr : expr ∈ analysis.body.exprs) (hsteps : expr.label.index < analysis.maxSteps) :
    analysis.trace expr none = result := by
  rw [trace, hdenotes.walk_eq hlaid hexpr hsteps Trail.valid_empty]
  cases result with
  | error failure => rfl
  | ok path => exact congrArg Except.ok (Trail.after_empty path)

end Analysis

/-- With as many steps as there are expressions up to the traced one, tracing gives exactly the
result that the rules give, failures included. -/
theorem trace_eq_iff_denotes {document : Document.Program} {analysis : Analysis}
    (hlower : document.lower = .ok analysis.program)
    (hbody : analysis.body ∈ analysis.program.bodies) {index : Nat} {expr : Expr Site}
    (hexpr : analysis.body.exprs[index]? = some expr) (hsteps : index + 1 ≤ analysis.maxSteps)
    (result : Except TraceFailure Path) :
    analysis.trace expr none = result ↔ analysis.Denotes expr result := by
  have hlaid := Document.Program.lower_laid hlower hbody
  have hmem := List.mem_of_getElem? hexpr
  have hlt : expr.label.index < analysis.maxSteps := by
    rw [hlaid.index_eq_of_getElem? hexpr]
    exact hsteps
  constructor
  · intro htrace
    obtain ⟨denoted, hdenotes⟩ := Analysis.exists_denotes hlaid expr hmem
    rwa [← htrace, hdenotes.trace_eq hlaid hmem hlt]
  · intro hdenotes
    exact hdenotes.trace_eq hlaid hmem hlt

/-- A field of what a reference into a list leads to, with no step to spare. -/
theorem trace_eq_iff_denotes_field : ∃ (analysis : Analysis) (expr : Expr Site),
    listDocument.lower = .ok analysis.program ∧ analysis.body ∈ analysis.program.bodies ∧
      analysis.body.exprs[5]? = some expr ∧ 5 + 1 ≤ analysis.maxSteps ∧
      analysis.Denotes expr (.ok (.ofSegments [.name "list", .index, .name "size"] 1 false)) := by
  have hany : listDocument.anyBody (fun program body => body.exprs[5]?.any fun expr =>
      (Analysis.mk program body (.ofProgram program) 6).trace expr none =
        .ok (.ofSegments [.name "list", .index, .name "size"] 1 false)) = true := by
    decide +kernel
  obtain ⟨program, body, hlower, hbody, htest⟩ := Document.Program.exists_of_anyBody hany
  obtain ⟨expr, hexpr, htrace⟩ := (Option.any_eq_true _ _).mp htest
  refine ⟨⟨program, body, .ofProgram program, 6⟩, expr, hlower, hbody, hexpr, Nat.le_refl _, ?_⟩
  exact (trace_eq_iff_denotes hlower hbody hexpr (Nat.le_refl _) _).mp (of_decide_eq_true htrace)

end RefStability
