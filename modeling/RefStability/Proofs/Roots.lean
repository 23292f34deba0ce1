import RefStability.Path.Relation
import RefStability.Proofs.Meaning
import RefStability.Proofs.ReadBack
import RefStability.Proofs.WalkInvariant

/-!
# Roots

A walk ends at a local, at a parameter or at a static field, and the path that it gives starts with
the name of that root. Names of locals and parameters are distinct, so that two paths from different
variables, or from different static fields, have nothing to do with each other. Nothing keeps a
static field from having the name of a variable; paths from such a pair are taken for paths from one
root.
-/

namespace RefStability

variable {Label : Type}

/-- Where a walk ends. -/
inductive Root where
  | localVar (target : LocalId)
  | param (target : ParamId)
  | staticField (name : String)
deriving DecidableEq, Repr

def Root.isStatic : Root → Bool
  | .staticField _ => true
  | _ => false

/-- The root that an expression names. -/
def Expr.root? : Expr Label → Option Root
  | .localVar _ target => some (.localVar target)
  | .param _ target => some (.param target)
  | .staticField _ name _ => some (.staticField name)
  | _ => none

def Body.rootName? (body : Body Label) : Root → Option String
  | .localVar target => (body.locals[target]?).map (·.name)
  | .param target => (body.params[target]?).map (·.name)
  | .staticField name => some name

/-- What is traced: an expression, or what a binding binds. -/
inductive Reference where
  | expr (expr : Expr Site)
  | binding (binding : Binding)

def Reference.origin : Reference → Expr Site
  | .expr value => value
  | .binding value => value.producer

namespace Analysis

variable (analysis : Analysis)

def traceReference : Reference → Except TraceFailure Path
  | .expr expr => analysis.trace expr none
  | .binding binding => analysis.traceBinding binding

/-- The root at which the steps from an expression end. -/
def rootWithin : Nat → Expr Site → Option Root
  | 0, _ => none
  | steps + 1, expr =>
    match analysis.step .empty expr with
    | .error _ => none
    | .ok (_, none) => expr.root?
    | .ok (_, some next) => rootWithin steps next

def rootOf? (reference : Reference) : Option Root :=
  analysis.rootWithin analysis.maxSteps reference.origin

/-- A static field has the name of a variable. -/
def Confuses (left right : Root) : Prop :=
  left.isStatic ≠ right.isStatic ∧ analysis.body.rootName? left = analysis.body.rootName? right

end Analysis

/-! ### Paths from different roots -/

/-- Neither path says anything about storage that the other one leads to. -/
structure Path.Apart (left right : Path) : Prop where
  relation : left.relation right = .unrelated ∧ right.relation left = .unrelated
  canInvalidate : left.canInvalidate right = false ∧ right.canInvalidate left = false
  canAlias : left.canAlias right = false ∧ right.canAlias left = false

namespace Path

variable {left right : Path} {leftRoot rightRoot : Segment}

theorem relation_eq_unrelated_iff (hleft : left.root? = some leftRoot)
    (hright : right.root? = some rightRoot) :
    left.relation right = .unrelated ↔ leftRoot ≠ rightRoot := by
  unfold relation
  rw [hleft, hright]
  by_cases hroot : leftRoot = rightRoot
  · simp only [hroot, ne_eq, not_true_eq_false, if_false, iff_false]
    split
    · simp
    · split
      · simp
      · split <;> simp
  · simp [hroot]

theorem canInvalidate_of_unrelated (hrelation : left.relation right = .unrelated) :
    left.canInvalidate right = false := by
  rw [canInvalidate, hrelation, Bool.and_false]

theorem canAlias_of_unrelated (hrelation : left.relation right = .unrelated) :
    left.canAlias right = false := by
  rw [canAlias, hrelation, Bool.and_false]

theorem apart_iff (hleft : left.root? = some leftRoot) (hright : right.root? = some rightRoot) :
    left.Apart right ↔ leftRoot ≠ rightRoot := by
  have hforth := relation_eq_unrelated_iff hleft hright
  have hback := relation_eq_unrelated_iff hright hleft
  constructor
  · intro hapart
    exact hforth.mp hapart.relation.1
  · intro hne
    have hunrelated := hforth.mpr hne
    have hunrelatedBack := hback.mpr hne.symm
    exact ⟨⟨hunrelated, hunrelatedBack⟩,
      ⟨canInvalidate_of_unrelated hunrelated, canInvalidate_of_unrelated hunrelatedBack⟩,
      ⟨canAlias_of_unrelated hunrelated, canAlias_of_unrelated hunrelatedBack⟩⟩

end Path

/-! ### The root of a walk -/

namespace Analysis

variable {analysis : Analysis}

/-- An expression that is traced and derives from no other one names a root. -/
theorem Stops.root {expr : Expr Site} {path : Path} (hstops : analysis.Stops expr (.ok path))
    (steps : Nat) :
    ∃ root name, analysis.rootWithin (steps + 1) expr = some root ∧
      analysis.body.rootName? root = some name ∧ path.segments = [.name name] := by
  cases hstops with
  | @value site target declared hlocal hkind =>
      refine ⟨.localVar target, declared.name, ?_, ?_, rfl⟩
      · simp only [rootWithin, step, hlocal, stepLocal, hkind, Expr.root?]
      · simp only [Body.rootName?, hlocal, Option.map_some]
  | @scopeHandle site target declared hlocal hkind =>
      refine ⟨.localVar target, declared.name, ?_, ?_, rfl⟩
      · simp only [rootWithin, step, hlocal, stepLocal, hkind, Expr.root?]
      · simp only [Body.rootName?, hlocal, Option.map_some]
  | @param site target declared hparam =>
      refine ⟨.param target, declared.name, ?_, ?_, rfl⟩
      · simp only [rootWithin, step, hparam, Expr.root?]
      · simp only [Body.rootName?, hparam, Option.map_some]
  | staticField site name ty => exact ⟨.staticField name, name, rfl, rfl, rfl⟩

theorem root_of_walk {steps : Nat} {trail : Trail} {expr : Expr Site} {path : Path}
    (hwalk : analysis.walk steps trail expr = .ok path) (htrail : trail.Valid) :
    ∃ root name, analysis.rootWithin steps expr = some root ∧
      analysis.body.rootName? root = some name ∧ path.root? = some (.name name) := by
  -- Which steps are taken does not depend on the trail, so that the search for the root, which
  -- keeps none, takes the same ones.
  induction steps generalizing trail expr with
  | zero => cases hwalk
  | succ steps ih =>
      rcases stops_or_derives analysis expr with ⟨result, hstops⟩ | ⟨next, extend, hderives⟩
      · rw [hstops.walk_eq htrail] at hwalk
        cases result with
        | error failure => cases hwalk
        | ok start =>
            cases hwalk
            obtain ⟨root, name, hroot, hname, hsegments⟩ := hstops.root steps
            refine ⟨root, name, hroot, hname, ?_⟩
            simp only [Path.root?, Trail.after, Path.ofSegments, hsegments, List.cons_append,
              List.head?_cons]
      · obtain ⟨longer, hlonger, _, hstep⟩ := hderives.step_eq htrail
        obtain ⟨_, _, _, hstart⟩ := hderives.step_eq Trail.valid_empty
        simp only [walk, hstep] at hwalk
        simp only [rootWithin, hstart]
        exact ih hwalk hlonger

theorem root_of_trace {expr : Expr Site} {elementType : Option TypeId} {path : Path}
    (htrace : analysis.trace expr elementType = .ok path) :
    ∃ root name, analysis.rootWithin analysis.maxSteps expr = some root ∧
      analysis.body.rootName? root = some name ∧ path.root? = some (.name name) := by
  cases elementType with
  | none => exact root_of_walk htrace Trail.valid_empty
  | some ty => exact root_of_walk htrace (Trail.valid_push Trail.valid_empty _ _)

/-- What can be traced has a root, whose name its path starts with. -/
theorem root_of_traceReference {reference : Reference} {path : Path}
    (htrace : analysis.traceReference reference = .ok path) :
    ∃ root name, analysis.rootOf? reference = some root ∧
      analysis.body.rootName? root = some name ∧ path.root? = some (.name name) := by
  cases reference with
  | expr expr =>
      have hexpr : analysis.trace expr none = .ok path := htrace
      exact root_of_trace hexpr
  | binding binding =>
      obtain ⟨_, hproducer⟩ := exists_trace_of_traceBinding htrace
      exact root_of_trace hproducer

end Analysis

/-! ### Names of roots -/

/-- A lowered body declares every name once. -/
theorem Document.Program.names_nodup_of_lower {document : Document.Program}
    {program : RefStability.Program Site} (hlower : document.lower = .ok program)
    {body : Body Site} (hbody : body ∈ program.bodies) :
    (body.params.map (·.name) ++ body.locals.map (·.name)).Nodup := by
  obtain ⟨method, hmethod, hbody⟩ := List.mem_filterMap.mp hbody
  obtain ⟨id, hid⟩ := List.mem_iff_getElem?.mp hmethod
  cases hsource : document.methods[id]? with
  | none =>
      rw [methods_none_of_lower hlower hsource] at hid
      cases hid
  | some source =>
      obtain ⟨result, start, hresolve, hplaced, _⟩ := exists_method_of_lower hlower hsource
      cases hplaced.symm.trans hid
      rw [Method.body_place] at hbody
      obtain ⟨resolved, hresolved, rfl⟩ := Option.map_eq_some_iff.mp hbody
      obtain ⟨_, rfl⟩ | ⟨stmts, _, _, hstmts, rfl⟩ := Method.resolve_eq_ok_iff.mp hresolve
      · cases hresolved
      · cases hresolved
        obtain ⟨hparams, hlocals⟩ := names_of_resolveBody hstmts start
        rw [hparams, hlocals]
        exact ((source.exists_resolveBody_iff document id stmts).mp ⟨_, hstmts⟩).names_distinct

theorem mem_of_getElem?_map {α : Type} {values : List α} {name : α → String} {index : Nat}
    {text : String} (hindex : (values[index]?).map name = some text) : text ∈ values.map name := by
  rw [← List.getElem?_map] at hindex
  exact List.mem_of_getElem? hindex

/-- Variables of the same name are the same, and so are static fields. -/
theorem Body.eq_of_rootName? {body : Body Label}
    (hnodup : (body.params.map (·.name) ++ body.locals.map (·.name)).Nodup) {left right : Root}
    {name : String} (hstatic : left.isStatic = right.isStatic)
    (hleft : body.rootName? left = some name) (hright : body.rootName? right = some name) :
    left = right := by
  obtain ⟨hparams, hlocals, hdisjoint⟩ := List.nodup_append.mp hnodup
  have hapart : ∀ param target, body.rootName? (.param param) = some name →
      body.rootName? (.localVar target) = some name → False := by
    intro param target hparam htarget
    exact hdisjoint name (mem_of_getElem?_map hparam) name (mem_of_getElem?_map htarget) rfl
  cases left with
  | staticField leftName =>
      cases right with
      | staticField rightName =>
          cases hleft
          cases hright
          rfl
      | localVar | param => cases hstatic
  | localVar leftTarget =>
      cases right with
      | staticField => cases hstatic
      | localVar rightTarget => rw [eq_of_getElem?_map hlocals hleft hright]
      | param rightTarget => exact (hapart rightTarget leftTarget hright hleft).elim
  | param leftTarget =>
      cases right with
      | staticField => cases hstatic
      | localVar rightTarget => exact (hapart leftTarget rightTarget hleft hright).elim
      | param rightTarget => rw [eq_of_getElem?_map hparams hleft hright]

/-- Everything that can be traced has a root. Paths from two different roots have nothing to do with
each other, unless one root is a static field that has the name of the other one. -/
theorem apart_iff_not_confuses {document : Document.Program} {analysis : Analysis}
    (hlower : document.lower = .ok analysis.program)
    (hbody : analysis.body ∈ analysis.program.bodies) {left right : Reference}
    {leftPath rightPath : Path} (hleft : analysis.traceReference left = .ok leftPath)
    (hright : analysis.traceReference right = .ok rightPath) :
    ∃ leftRoot rightRoot, analysis.rootOf? left = some leftRoot ∧
      analysis.rootOf? right = some rightRoot ∧
      (leftRoot ≠ rightRoot →
        (leftPath.Apart rightPath ↔ ¬ analysis.Confuses leftRoot rightRoot)) := by
  have hnodup := Document.Program.names_nodup_of_lower hlower hbody
  obtain ⟨leftRoot, leftName, hleftRoot, hleftName, hleftPath⟩ :=
    Analysis.root_of_traceReference hleft
  obtain ⟨rightRoot, rightName, hrightRoot, hrightName, hrightPath⟩ :=
    Analysis.root_of_traceReference hright
  refine ⟨leftRoot, rightRoot, hleftRoot, hrightRoot, fun hne => ?_⟩
  have hnames : analysis.Confuses leftRoot rightRoot ↔ leftName = rightName := by
    rw [Analysis.Confuses, hleftName, hrightName, Option.some.injEq]
    constructor
    · exact And.right
    · rintro rfl
      refine ⟨fun hstatic => hne ?_, rfl⟩
      exact Body.eq_of_rootName? hnodup hstatic hleftName hrightName
  rw [Path.apart_iff hleftPath hrightPath, hnames, ne_eq, Segment.name.injEq]

/-- A call that is passed a local and a static field of the same name, and one that is passed
another local and the static field. -/
def sharedDocument : Document.Program where
  file := 0
  types := [⟨"List", true⟩]
  methods :=
    [{ name := "Swap", signature := none
       params := [⟨"left", some "List", true⟩, ⟨"right", some "List", true⟩], kind := .plain
       path := none, returnsRef := false, locals := [], body := none },
     { name := "run", signature := none, params := [], kind := .plain, path := none
       returnsRef := false
       locals := [⟨"shared", some "List", .value⟩, ⟨"own", some "List", .value⟩]
       body := some
        [.eval (.call "Swap" [(.ref, .ident "shared"), (.ref, .staticField "shared" (some "List"))]
          none),
         .eval (.call "Swap" [(.ref, .ident "own"), (.ref, .staticField "shared" (some "List"))]
          none)] }]

theorem apart_iff_not_confuses_own : ∃ (analysis : Analysis) (left right : Expr Site)
    (leftPath rightPath : Path), sharedDocument.lower = .ok analysis.program ∧
      analysis.body ∈ analysis.program.bodies ∧
      analysis.trace left none = .ok leftPath ∧ analysis.trace right none = .ok rightPath ∧
      analysis.rootOf? (.expr left) = some (.localVar 1) ∧
      analysis.rootOf? (.expr right) = some (.staticField "shared") ∧
      leftPath.Apart rightPath := by
  have hany : sharedDocument.anyBody (fun program body =>
      let analysis := Analysis.mk program body (.ofProgram program) 2
      body.exprs[3]?.any fun left => body.exprs[4]?.any fun right =>
        analysis.trace left none = .ok (.ofSegments [.name "own"] 1 false) &&
          analysis.trace right none = .ok (.ofSegments [.name "shared"] 1 false) &&
          analysis.rootOf? (.expr left) = some (.localVar 1) &&
          analysis.rootOf? (.expr right) = some (.staticField "shared") &&
          analysis.body.rootName? (.localVar 1) = some "own") = true := by
    decide +kernel
  obtain ⟨program, body, hlower, hbody, htest⟩ := Document.Program.exists_of_anyBody hany
  obtain ⟨left, _, htest⟩ := (Option.any_eq_true _ _).mp htest
  obtain ⟨right, _, htest⟩ := (Option.any_eq_true _ _).mp htest
  simp only [Bool.and_eq_true, decide_eq_true_eq] at htest
  obtain ⟨⟨⟨⟨hleftTrace, hrightTrace⟩, hleftRoot⟩, hrightRoot⟩, hname⟩ := htest
  refine ⟨⟨program, body, .ofProgram program, 2⟩, left, right, _, _, hlower, hbody, hleftTrace,
    hrightTrace, hleftRoot, hrightRoot, ?_⟩
  obtain ⟨leftRoot, rightRoot, hleftEq, hrightEq, hapart⟩ :=
    @apart_iff_not_confuses sharedDocument ⟨program, body, .ofProgram program, 2⟩ hlower hbody
      (.expr left) (.expr right) _ _ hleftTrace hrightTrace
  cases hleftRoot.symm.trans hleftEq
  cases hrightRoot.symm.trans hrightEq
  refine (hapart (by decide)).mpr fun hconfuses => ?_
  have heq : some "own" = some "shared" := hname.symm.trans hconfuses.2
  exact absurd heq (by decide)

/-- A local and a static field of its name are different roots; their paths are the same, and
passing both is reported. -/
theorem static_field_named_like_local : ∃ (analysis : Analysis) (left right : Expr Site)
    (path : Path), sharedDocument.lower = .ok analysis.program ∧
      analysis.body ∈ analysis.program.bodies ∧
      analysis.trace left none = .ok path ∧ analysis.trace right none = .ok path ∧
      analysis.rootOf? (.expr left) = some (.localVar 0) ∧
      analysis.rootOf? (.expr right) = some (.staticField "shared") ∧
      path.relation path = .same ∧ path.canAlias path = true := by
  have hany : sharedDocument.anyBody (fun program body =>
      let analysis := Analysis.mk program body (.ofProgram program) 2
      body.exprs[0]?.any fun left => body.exprs[1]?.any fun right =>
        analysis.trace left none = .ok (.ofSegments [.name "shared"] 1 false) &&
          analysis.trace right none = .ok (.ofSegments [.name "shared"] 1 false) &&
          analysis.rootOf? (.expr left) = some (.localVar 0) &&
          analysis.rootOf? (.expr right) = some (.staticField "shared")) = true := by
    decide +kernel
  obtain ⟨program, body, hlower, hbody, htest⟩ := Document.Program.exists_of_anyBody hany
  obtain ⟨left, _, htest⟩ := (Option.any_eq_true _ _).mp htest
  obtain ⟨right, _, htest⟩ := (Option.any_eq_true _ _).mp htest
  simp only [Bool.and_eq_true, decide_eq_true_eq] at htest
  obtain ⟨⟨⟨hleftTrace, hrightTrace⟩, hleftRoot⟩, hrightRoot⟩ := htest
  exact ⟨⟨program, body, .ofProgram program, 2⟩, left, right, _, hlower, hbody, hleftTrace,
    hrightTrace, hleftRoot, hrightRoot, by decide, by decide⟩

end RefStability
