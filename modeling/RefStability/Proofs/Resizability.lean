import Mathlib.Data.List.Flatten
import Mathlib.Data.List.Forall2
import Mathlib.Data.List.Infix
import RefStability.Command.Paths
import RefStability.Proofs.Problem
import RefStability.Proofs.Visibility

/-!
# More resizable types

A type that is marked as resizable moves the boundaries of paths outwards and changes nothing else
about them: a walk takes the same steps to the same root. Both questions that are asked of two paths
stay answered with yes when boundaries move outwards, so marking more types adds reports and takes
none away.
-/

namespace RefStability

/-! ### Paths with a boundary further out -/

/-- The same path, with a boundary that lies no earlier. -/
structure Path.IsRaised (path raised : Path) : Prop where
  segments : raised.segments = path.segments
  isScoped : raised.isScoped = path.isScoped
  boundary : path.boundary ≤ raised.boundary

namespace Path.IsRaised

variable {path raised left leftRaised right rightRaised : Path}

theorem refl (path : Path) : path.IsRaised path := ⟨rfl, rfl, Nat.le_refl _⟩

theorem length (hraised : path.IsRaised raised) : raised.length = path.length := by
  rw [Path.length, hraised.segments, Path.length]

theorem explicit (hraised : path.IsRaised raised) : raised.explicit = path.explicit := by
  rw [Path.explicit, hraised.segments, Path.explicit]

theorem explicitLength (hraised : path.IsRaised raised) :
    raised.explicitLength = path.explicitLength := by
  rw [Path.explicitLength, hraised.explicit, Path.explicitLength]

theorem isRepresentable (hraised : path.IsRaised raised) :
    raised.isRepresentable = path.isRepresentable := by
  rw [Path.isRepresentable, Path.isEmpty, hraised.segments, Path.isRepresentable, Path.isEmpty]

theorem isAnchor (hraised : path.IsRaised raised) (hanchor : path.isAnchor = true) :
    raised.isAnchor = true := by
  obtain ⟨hroot, hboundary⟩ := (Path.isAnchor_iff path).mp hanchor
  have hle := hraised.boundary
  have hlast := raised.boundary_le
  rw [← Path.length, hraised.length] at hlast
  refine (Path.isAnchor_iff raised).mpr ⟨by rwa [hraised.segments], ?_⟩
  rw [hraised.length]
  omega

theorem relation (hleft : left.IsRaised leftRaised) (hright : right.IsRaised rightRaised) :
    leftRaised.relation rightRaised = left.relation right := by
  unfold Path.relation Path.root?
  rw [hleft.segments, hright.segments, hleft.explicit, hright.explicit]

theorem resizableAccessSince (hraised : path.IsRaised raised) {start : Nat}
    (haccess : path.resizableAccessSince start = true) :
    raised.resizableAccessSince start = true := by
  obtain ⟨segment, hsegment, hindirection⟩ := List.any_eq_true.mp haccess
  refine List.any_eq_true.mpr ⟨segment, ?_, hindirection⟩
  -- The segments that are looked at lie within the boundary, and those within the earlier boundary
  -- lie within the later one.
  rw [hraised.segments]
  have hwithin : path.segments.take (path.boundary + 1) <+:
      path.segments.take (raised.boundary + 1) :=
    List.take_prefix_take_left (Nat.succ_le_succ hraised.boundary)
  exact (hwithin.drop start).subset hsegment

theorem canInvalidate (hmutator : left.IsRaised leftRaised) (hvictim : right.IsRaised rightRaised)
    (hinvalidate : left.canInvalidate right = true) :
    leftRaised.canInvalidate rightRaised = true := by
  unfold Path.canInvalidate at hinvalidate ⊢
  rw [Bool.and_eq_true_iff] at hinvalidate ⊢
  obtain ⟨hanchor, haccess⟩ := hinvalidate
  refine ⟨hmutator.isAnchor hanchor, ?_⟩
  rw [hmutator.relation hvictim, hmutator.explicitLength]
  cases hrelation : left.relation right with
  | parent | same =>
      simp only [hrelation] at haccess ⊢
      exact hvictim.resizableAccessSince haccess
  | unrelated | sibling | child => simp [hrelation] at haccess

theorem canAlias (hleft : left.IsRaised leftRaised) (hright : right.IsRaised rightRaised)
    (halias : left.canAlias right = true) : leftRaised.canAlias rightRaised = true := by
  unfold Path.canAlias at halias ⊢
  rw [Bool.and_eq_true_iff, Bool.or_eq_true_iff] at halias ⊢
  obtain ⟨hanchor, hshared⟩ := halias
  refine ⟨hanchor.imp hleft.isAnchor hright.isAnchor, ?_⟩
  rw [hleft.relation hright, hleft.explicitLength, hright.explicitLength]
  cases hrelation : left.relation right with
  | parent =>
      simp only [hrelation, Bool.or_eq_true_iff] at hshared ⊢
      exact hshared.imp hright.isAnchor hright.resizableAccessSince
  | same =>
      simp only [hrelation, Bool.or_eq_true_iff, decide_eq_true_eq] at hshared ⊢
      have hleftBoundary := hleft.boundary
      have hrightBoundary := hright.boundary
      omega
  | child =>
      simp only [hrelation] at hshared ⊢
      exact hleft.isAnchor hshared
  | unrelated | sibling => simp [hrelation] at hshared

end Path.IsRaised

/-! ### Walks -/

/-- The same segments, of which no more lie after the boundary. -/
structure Trail.IsRaised (trail raised : Trail) : Prop where
  segments : raised.segments = trail.segments
  isScoped : raised.isScoped = trail.isScoped
  isClosed : trail.isClosed = true → raised.isClosed = true
  fixedSuffix : raised.fixedSuffix ≤ trail.fixedSuffix

namespace Trail.IsRaised

variable {trail raised : Trail}

theorem refl (trail : Trail) : trail.IsRaised trail := ⟨rfl, rfl, id, Nat.le_refl _⟩

theorem push (hraised : trail.IsRaised raised) (segment : Segment) {low high : Bool}
    (hflag : low = true → high = true) :
    (trail.push segment low).IsRaised (raised.push segment high) := by
  have hclosed := hraised.isClosed
  have hsuffix := hraised.fixedSuffix
  refine ⟨congrArg (segment :: ·) hraised.segments, hraised.isScoped, ?_, ?_⟩
  · simp only [Trail.push, Bool.or_eq_true_iff]
    exact Or.imp hclosed hflag
  · -- The raised trail counts the segment only where the other one does.
    simp only [Trail.push, Bool.or_eq_true_iff]
    by_cases hopen : trail.isClosed = true ∨ low = true
    · rw [if_pos hopen, if_pos (hopen.imp hclosed hflag)]
      exact hsuffix
    · rw [if_neg hopen]
      split <;> omega

theorem splice (hraised : trail.IsRaised raised) (template : Template) :
    (trail.splice template).IsRaised (raised.splice template) := by
  have hclosed := hraised.isClosed
  have hsuffix := hraised.fixedSuffix
  refine ⟨congrArg (template.segments ++ ·) hraised.segments, hraised.isScoped, ?_, ?_⟩
  · simp only [Trail.splice, Bool.or_eq_true_iff]
    exact Or.imp_left hclosed
  · simp only [Trail.splice]
    by_cases hopen : trail.isClosed = true
    · rw [if_pos hopen, if_pos (hclosed hopen)]
      exact hsuffix
    · rw [if_neg hopen]
      split <;> omega

theorem withScope (hraised : trail.IsRaised raised) :
    { trail with isScoped := true }.IsRaised { raised with isScoped := true } :=
  ⟨hraised.segments, rfl, hraised.isClosed, hraised.fixedSuffix⟩

theorem finish (hraised : trail.IsRaised raised) : trail.finish.IsRaised raised.finish := by
  have hsuffix := hraised.fixedSuffix
  refine ⟨hraised.segments, hraised.isScoped, ?_⟩
  simp only [Trail.finish, Path.ofSegments, hraised.segments]
  omega

end Trail.IsRaised

/-- Both fail in the same way, or both give values that are related. -/
inductive Agree {ε α : Type} (related : α → α → Prop) : Except ε α → Except ε α → Prop
  | error (failure : ε) : Agree related (.error failure) (.error failure)
  | ok {left right : α} (hrelated : related left right) : Agree related (.ok left) (.ok right)

/-- The trails of two steps to the same expression. -/
def TraceStep.IsRaised (step raised : TraceStep) : Prop :=
  step.1.IsRaised raised.1 ∧ step.2 = raised.2

/-- The rule looks at no boundary. -/
def Rule.ReadsNoBoundary (rule : Rule) : Prop :=
  rule = .unverifiableReference ∨ rule = .scopedReferenceEscape

/-- More problems in the same order, but no more of the kinds for which no boundary is read. -/
structure Problem.Grows (less more : List Problem) : Prop where
  sublist : less.Sublist more
  filter_eq {rule : Rule} (hrule : rule.ReadsNoBoundary) :
    (more.filter fun problem => problem.rule = rule) =
      less.filter fun problem => problem.rule = rule

namespace Problem.Grows

theorem refl (problems : List Problem) : Grows problems problems :=
  ⟨List.Sublist.refl _, fun _ => rfl⟩

theorem flatMap {α : Type} {values : List α} {less more : α → List Problem}
    (hgrows : ∀ value, Grows (less value) (more value)) :
    Grows (values.flatMap less) (values.flatMap more) where
  sublist := List.Sublist.flatMap_right _ fun value _ => (hgrows value).sublist
  filter_eq hrule := by
    rw [List.filter_flatMap, List.filter_flatMap]
    exact List.flatMap_congr fun value _ => (hgrows value).filter_eq hrule

end Problem.Grows

namespace Analysis

/-- The same analysis of a program with other types. -/
def withTypes (analysis : Analysis) (types : List Document.TypeDecl) : Analysis :=
  { analysis with program := { analysis.program with types } }

variable {analysis : Analysis} {types : List Document.TypeDecl}
  (hraise : ∀ ty, analysis.isResizable ty = true → (analysis.withTypes types).isResizable ty = true)
  {trail raised : Trail}

theorem stepArgument_raised (method : Method Site) (args : List (PassMode × Expr Site))
    (position : Nat) (htrail : trail.IsRaised raised) :
    Agree TraceStep.IsRaised (stepArgument method args position trail)
      (stepArgument method args position raised) := by
  unfold stepArgument
  cases args[position]? with
  | none => exact .error _
  | some argument => exact .ok ⟨htrail, rfl⟩

include hraise

theorem stepCall_raised (id : MethodId) (method : Method Site)
    (args : List (PassMode × Expr Site)) (ty : TypeId) (htrail : trail.IsRaised raised) :
    Agree TraceStep.IsRaised (analysis.stepCall id method args ty trail)
      ((analysis.withTypes types).stepCall id method args ty raised) := by
  have hpush := fun segment => htrail.push segment (hraise ty)
  have htemplates : (analysis.withTypes types).templates = analysis.templates := rfl
  unfold stepCall
  rw [htemplates]
  cases method.kind with
  | elementAccessor => exact stepArgument_raised method args 0 (hpush _)
  | viewConversion => exact stepArgument_raised method args 0 (hpush _)
  | slice =>
      cases analysis.templates.get? id with
      | none => exact stepArgument_raised method args 0 htrail
      | some parsed =>
          cases parsed with
          | error cause => exact .error _
          | ok template =>
              exact stepArgument_raised method args template.rootIndex (htrail.splice template)
  | plain =>
      cases analysis.templates.get? id with
      | none => exact .error _
      | some parsed =>
          cases parsed with
          | error cause => exact .error _
          | ok template =>
              exact stepArgument_raised method args template.rootIndex (htrail.splice template)

theorem stepLocal_raised (expr : Expr Site) (target : LocalId) (declared : LocalDecl Site)
    (htrail : trail.IsRaised raised) :
    Agree TraceStep.IsRaised (analysis.stepLocal expr target declared trail)
      ((analysis.withTypes types).stepLocal expr target declared raised) := by
  have hpush := fun segment => htrail.push segment (hraise declared.ty)
  have hbody : (analysis.withTypes types).body = analysis.body := rfl
  unfold stepLocal
  rw [hbody]
  cases declared.kind with
  | value => exact .ok ⟨hpush _, rfl⟩
  | scopeHandle => exact .ok ⟨(hpush _).withScope, rfl⟩
  | ref =>
      cases analysis.body.resolve? expr with
      | none => exact .error _
      | some binding =>
          cases hkind : binding.kind with
          | external =>
              simp only [hkind]
              exact .error _
          | loopItem span =>
              simp only [hkind]
              exact .ok ⟨hpush _, rfl⟩
          | ordinary =>
              simp only [hkind]
              exact .ok ⟨htrail, rfl⟩

/-- Both analyses take the same step. -/
theorem step_raised (htrail : trail.IsRaised raised) (expr : Expr Site) :
    Agree TraceStep.IsRaised (analysis.step trail expr)
      ((analysis.withTypes types).step raised expr) := by
  have hpush := fun segment ty => htrail.push segment (hraise ty)
  cases expr with
  | literal | computed => exact .error _
  | staticField | field | index => exact .ok ⟨hpush _ _, rfl⟩
  | slice | scopeValue => exact .ok ⟨htrail, rfl⟩
  | localVar site target =>
      have hbody : (analysis.withTypes types).body = analysis.body := rfl
      rw [step, step, hbody]
      cases analysis.body.locals[target]? with
      | none => exact .error _
      | some declared => exact stepLocal_raised hraise _ target declared htrail
  | param site target =>
      have hbody : (analysis.withTypes types).body = analysis.body := rfl
      rw [step, step, hbody]
      cases analysis.body.params[target]? with
      | none => exact .error _
      | some declared => exact .ok ⟨hpush _ _, rfl⟩
  | call site id args ty =>
      have hmethods : (analysis.withTypes types).program.methods = analysis.program.methods := rfl
      rw [step, step, hmethods]
      cases analysis.program.methods[id]? with
      | none => exact .error _
      | some method => exact stepCall_raised hraise id method args ty htrail

/-- Two walks that take the same steps end with the same failure or at the same root. -/
theorem walk_raised (steps : Nat) (htrail : trail.IsRaised raised) (expr : Expr Site) :
    Agree Path.IsRaised (analysis.walk steps trail expr)
      ((analysis.withTypes types).walk steps raised expr) := by
  induction steps generalizing trail raised expr with
  | zero => exact .error _
  | succ steps ih =>
      have hstep := step_raised hraise htrail expr
      unfold walk
      generalize analysis.step trail expr = result at hstep ⊢
      generalize (analysis.withTypes types).step raised expr = raisedResult at hstep ⊢
      cases hstep with
      | error failure => exact .error failure
      | @ok left right hrelated =>
          obtain ⟨longer, next⟩ := left
          obtain ⟨longerRaised, nextRaised⟩ := right
          obtain ⟨hlonger, hnext⟩ := hrelated
          cases hnext
          cases next with
          | none => exact .ok hlonger.finish
          | some next => exact ih hlonger next

theorem trace_raised (expr : Expr Site) (elementType : Option TypeId) :
    Agree Path.IsRaised (analysis.trace expr elementType)
      ((analysis.withTypes types).trace expr elementType) := by
  cases elementType with
  | none => exact walk_raised hraise _ (.refl _) expr
  | some ty => exact walk_raised hraise _ ((Trail.IsRaised.refl _).push _ (hraise ty)) expr

theorem traceBinding_raised (binding : Binding) :
    Agree Path.IsRaised (analysis.traceBinding binding)
      ((analysis.withTypes types).traceBinding binding) := by
  unfold traceBinding
  cases binding.kind with
  | external => exact .error _
  | loopItem span => exact trace_raised hraise _ _
  | ordinary => exact trace_raised hraise _ _

/-! ### Problems -/

omit hraise in
theorem pathOrUnrepresentable_raised {result raisedResult : Except TraceFailure Path}
    (hagree : Agree Path.IsRaised result raisedResult) :
    (pathOrUnrepresentable result).IsRaised (pathOrUnrepresentable raisedResult) := by
  cases hagree with
  | error failure => exact .refl _
  | ok hrelated => exact hrelated

theorem path_raised (expr : Expr Site) (elementType : Option TypeId) :
    (analysis.path expr elementType).IsRaised
      ((analysis.withTypes types).path expr elementType) :=
  pathOrUnrepresentable_raised (trace_raised hraise expr elementType)

theorem bindingPath_raised (binding : Binding) :
    (analysis.bindingPath binding).IsRaised ((analysis.withTypes types).bindingPath binding) :=
  pathOrUnrepresentable_raised (traceBinding_raised hraise binding)

theorem map_binding_liveAt_raised (position : Nat) :
    ((analysis.withTypes types).liveAt position).map LiveBinding.binding =
      (analysis.liveAt position).map LiveBinding.binding := by
  rw [map_binding_liveAt, map_binding_liveAt]
  refine List.filter_congr fun binding _ => ?_
  rw [(bindingPath_raised hraise binding).isRepresentable]
  rfl

theorem untraceableProblems_raised (arguments : List (Expr Site)) :
    (analysis.withTypes types).untraceableProblems arguments =
      analysis.untraceableProblems arguments := by
  unfold untraceableProblems
  congr 1
  funext argument
  have hagree := trace_raised hraise argument none
  generalize analysis.trace argument none = result at hagree ⊢
  generalize (analysis.withTypes types).trace argument none = raisedResult at hagree ⊢
  cases hagree <;> rfl

theorem invalidationProblems_raised (call : Expr Site) (arguments : List (Expr Site)) :
    (analysis.invalidationProblems call arguments).Sublist
      ((analysis.withTypes types).invalidationProblems call arguments) := by
  unfold invalidationProblems
  rw [map_binding_liveAt_raised hraise]
  refine List.Sublist.flatMap_right _ fun argument _ => ?_
  refine (List.monotone_filter_right _ fun victim hmove => ?_).map _
  exact (path_raised hraise argument none).canInvalidate (bindingPath_raised hraise victim) hmove

theorem sharingProblems_raised (call : Expr Site) (arguments : List (Expr Site)) :
    (analysis.sharingProblems call arguments).Sublist
      ((analysis.withTypes types).sharingProblems call arguments) := by
  unfold sharingProblems
  refine (List.monotone_filter_right _ fun pair hshare => ?_).map _
  have hfirst := path_raised hraise pair.1 none
  have hsecond := path_raised hraise pair.2 none
  rw [mayShare, Bool.or_eq_true_iff] at hshare ⊢
  exact hshare.imp (hfirst.canAlias hsecond) (hsecond.canAlias hfirst)

theorem callProblemsOf_raised (call : Expr Site) (id : MethodId) (method : Method Site)
    (arguments : List (Expr Site)) (rule : Rule) :
    (analysis.callProblemsOf call id method arguments rule).Sublist
      ((analysis.withTypes types).callProblemsOf call id method arguments rule) := by
  have hhelper : (analysis.withTypes types).isReferenceHelper id method =
      analysis.isReferenceHelper id method := rfl
  cases rule with
  | unverifiableReference =>
      rw [callProblemsOf, callProblemsOf, untraceableProblems_raised hraise]
  | resizeInvalidatesReference =>
      rw [callProblemsOf, callProblemsOf, hhelper]
      split
      · exact List.Sublist.refl _
      · exact invalidationProblems_raised hraise call arguments
  | aliasedDynamicArguments => exact sharingProblems_raised hraise call arguments
  | scopedReferenceEscape => exact List.Sublist.refl _

theorem callProblems_raised (call : Expr Site) (id : MethodId) (method : Method Site)
    (arguments : List (Expr Site)) :
    Problem.Grows (analysis.callProblems call id method arguments)
      ((analysis.withTypes types).callProblems call id method arguments) := by
  have hkind := callProblemsOf_raised hraise call id method arguments
  refine ⟨((hkind _).append (hkind _)).append (hkind _), fun hrule => ?_⟩
  rw [filter_callProblems, filter_callProblems]
  rcases hrule with rfl | rfl
  · exact untraceableProblems_raised hraise _
  · rfl

theorem nodeProblems_raised (node : Node Site) :
    Problem.Grows (analysis.nodeProblems node)
      ((analysis.withTypes types).nodeProblems node) := by
  cases node with
  | stmt stmt =>
      cases stmt with
      | ret site value =>
          cases value with
          | none => exact .refl _
          | some value =>
              have hscoped := (path_raised hraise value none).isScoped
              have hreturns : (analysis.withTypes types).returnsRef = analysis.returnsRef := rfl
              simp only [nodeProblems, hscoped, hreturns]
              exact .refl _
      | _ => exact .refl _
  | expr expr =>
      cases expr with
      | call site id args ty =>
          have hmethods : (analysis.withTypes types).program.methods =
              analysis.program.methods := rfl
          simp only [nodeProblems, hmethods]
          cases analysis.program.methods[id]? with
          | none => exact .refl _
          | some method => exact callProblems_raised hraise _ id method _
      | _ => exact .refl _

theorem problems_raised : Problem.Grows analysis.problems (analysis.withTypes types).problems :=
  .flatMap fun node => nodeProblems_raised hraise node

/-- The first analysis reports all that the second one does, in the same order, and reports nothing
more about arguments that cannot be traced and about returns. -/
structure Covers (more less : Analysis) : Prop where
  findings_more : more.findings = more.problems.map more.finding
  findings_less : less.findings = less.problems.map less.finding
  problems : less.problems.Sublist more.problems
  unverifiable : more.findings.filter Rule.unverifiableReference.selects =
    less.findings.filter Rule.unverifiableReference.selects
  escapes : (more.problems.filter fun problem => problem.rule = .scopedReferenceEscape) =
    less.problems.filter fun problem => problem.rule = .scopedReferenceEscape

theorem withTypes_covers : (analysis.withTypes types).Covers analysis where
  findings_more := findings_eq_map_problems _
  findings_less := findings_eq_map_problems _
  problems := (problems_raised hraise).sublist
  unverifiable := by
    rw [filter_selects_findings, filter_selects_findings,
      (problems_raised hraise).filter_eq (.inl rfl)]
    refine List.map_congr_left fun problem hproblem => ?_
    have hrule := of_decide_eq_true (List.mem_filter.mp hproblem).2
    cases problem with
    | untraceable argument failure => rfl
    | _ => cases hrule
  escapes := (problems_raised hraise).filter_eq (.inr rfl)

end Analysis

/-! ### Documents -/

namespace Document

structure TypeDecl.IsRaised (declared raised : TypeDecl) : Prop where
  name : raised.name = declared.name
  isResizable : declared.isResizable = true → raised.isResizable = true

/-- The same document, with some more types marked as resizable. -/
structure Program.IsRaised (document raised : Program) : Prop where
  file : raised.file = document.file
  types : List.Forall₂ TypeDecl.IsRaised document.types raised.types
  methods : raised.methods = document.methods

theorem any_isResizable_raised {types raised : List TypeDecl}
    (hraised : List.Forall₂ TypeDecl.IsRaised types raised) (ty : TypeId)
    (hresizable : (types[ty]?).any (·.isResizable) = true) :
    (raised[ty]?).any (·.isResizable) = true := by
  induction hraised generalizing ty with
  | nil => exact hresizable
  | cons hfirst _ ih =>
      cases ty with
      | zero => exact hfirst.isResizable hresizable
      | succ ty => exact ih ty hresizable

theorem map_name_raised {types raised : List TypeDecl}
    (hraised : List.Forall₂ TypeDecl.IsRaised types raised) :
    raised.map (·.name) = types.map (·.name) := by
  induction hraised with
  | nil => rfl
  | cons hfirst _ ih => rw [List.map_cons, List.map_cons, hfirst.name, ih]

namespace Program.IsRaised

variable {document raised : Program} (hraised : document.IsRaised raised)
include hraised

theorem looksLike : document.LooksLike raised where
  file := hraised.file
  types := map_name_raised hraised.types
  methods := ⟨by rw [hraised.methods], by rw [hraised.methods]⟩

/-- The documents lower to the same program, types apart. -/
theorem lower_eq {program : RefStability.Program Site} (hlower : document.lower = .ok program) :
    program.types = unknownType :: document.types ∧
      raised.lower = .ok { program with types := unknownType :: raised.types } := by
  obtain ⟨resolved, hresolve, rfl, hlast⟩ := Program.lower_eq_ok_iff.mp hlower
  obtain ⟨htypes, hsignatures, methods, hmethods, rfl⟩ := Program.resolve_eq_ok_iff.mp hresolve
  refine ⟨rfl, Program.lower_eq_ok_iff.mpr
    ⟨⟨document.file, unknownType :: raised.types, methods⟩, ?_, rfl, hlast⟩⟩
  refine Program.resolve_eq_ok_iff.mpr ⟨?_, ?_, methods, ?_, ?_⟩
  · rwa [map_name_raised hraised.types]
  · rwa [hraised.methods]
  · rw [hraised.methods, resolveMethods_of_looksLike hraised.looksLike]
    exact hmethods
  · rw [hraised.file]

end Program.IsRaised

end Document

/-- Marking more types as resizable hides no problem: a document that lowers still does, to the same
bodies, and each of them has all the problems it had before. -/
theorem raised_types_cover {document raised : Document.Program} {program : Program Site}
    (hraised : document.IsRaised raised) (hlower : document.lower = .ok program)
    (config : Config) :
    ∃ raisedProgram, raised.lower = .ok raisedProgram ∧ raisedProgram.bodies = program.bodies ∧
      ∀ body ∈ program.bodies,
        (config.analysis raisedProgram body).Covers (config.analysis program body) := by
  obtain ⟨htypes, hraisedLower⟩ := hraised.lower_eq hlower
  refine ⟨_, hraisedLower, rfl, fun body _ => ?_⟩
  -- No template depends on a type, so that only the types of the two analyses differ.
  change ((config.analysis program body).withTypes (unknownType :: raised.types)).Covers _
  refine Analysis.withTypes_covers fun ty hresizable => ?_
  refine Document.any_isResizable_raised (.cons ⟨rfl, id⟩ hraised.types) ty ?_
  rw [← htypes]
  exact hresizable

/-- The list of `listDocument` holds lists itself. -/
def nestedListDocument : Document.Program :=
  { listDocument with types := [⟨"List", true⟩, ⟨"Item", true⟩] }

theorem raised_types_cover_list : ∃ program raisedProgram body,
    listDocument.lower = .ok program ∧ nestedListDocument.lower = .ok raisedProgram ∧
      body ∈ program.bodies ∧ (Config.default.analysis program body).problems.length = 2 ∧
      (Config.default.analysis raisedProgram body).Covers
        (Config.default.analysis program body) := by
  have hany : listDocument.anyBody (fun program body =>
      (Config.default.analysis program body).problems.length == 2) = true := by
    decide +kernel
  obtain ⟨program, body, hlower, hbody, htest⟩ := Document.Program.exists_of_anyBody hany
  have hraised : listDocument.IsRaised nestedListDocument :=
    ⟨rfl, .cons ⟨rfl, id⟩ (.cons ⟨rfl, fun _ => rfl⟩ .nil), rfl⟩
  obtain ⟨raisedProgram, hraisedLower, _, hcovers⟩ :=
    raised_types_cover hraised hlower Config.default
  exact ⟨program, raisedProgram, body, hlower, hraisedLower, hbody, eq_of_beq htest,
    hcovers body hbody⟩

end RefStability
