import RefStability.Proofs.ReadBack
import RefStability.Proofs.Resizability
import RefStability.Proofs.WalkInvariant

/-!
# Programs without resizable storage

Where no type is resizable and no template marks the end of resizable storage, no step of a walk
closes its trail: all segments lie after the boundary, and the boundary of the path is its root.
Such a path is no anchor, and without an anchor no resize moves anything and no two arguments share
resizable storage.
-/

namespace RefStability

/-! ### Trails that are never closed -/

/-- No boundary has been found, and all segments lie after it. -/
structure Trail.IsOpen (trail : Trail) : Prop where
  isClosed : trail.isClosed = false
  fixedSuffix : trail.fixedSuffix = trail.segments.length

namespace Trail.IsOpen

theorem empty : Trail.empty.IsOpen := ⟨rfl, rfl⟩

variable {trail : Trail} (htrail : trail.IsOpen)
include htrail

theorem push (segment : Segment) : (trail.push segment false).IsOpen where
  isClosed := by rw [Trail.push, htrail.isClosed, Bool.or_false]
  fixedSuffix := by simp [Trail.push, htrail.isClosed, htrail.fixedSuffix]

theorem splice {template : Template} (hboundary : template.boundary = none) :
    (trail.splice template).IsOpen where
  isClosed := by rw [Trail.splice, htrail.isClosed, hboundary, Option.isSome_none, Bool.or_false]
  fixedSuffix := by
    simp [Trail.splice, Template.fixedSuffix, htrail.isClosed, htrail.fixedSuffix, hboundary,
      Nat.add_comm]

theorem boundary_finish : trail.finish.boundary = 0 := by
  simp [Trail.finish, Path.ofSegments, htrail.fixedSuffix]

end Trail.IsOpen

/-! ### Paths without an anchor -/

namespace Path

variable {path left right : Path}

theorem isAnchor_of_boundary_zero (hboundary : path.boundary = 0) : path.isAnchor = false := by
  rw [Bool.eq_false_iff, ne_eq, isAnchor_iff, hboundary, length]
  rintro ⟨hsegments, hlength⟩
  exact hsegments (List.length_eq_zero_iff.mp hlength.symm)

theorem canInvalidate_of_boundary_zero (hboundary : left.boundary = 0) :
    left.canInvalidate right = false := by
  rw [canInvalidate, isAnchor_of_boundary_zero hboundary, Bool.false_and]

theorem canAlias_of_boundary_zero (hleft : left.boundary = 0) (hright : right.boundary = 0) :
    left.canAlias right = false := by
  rw [canAlias, isAnchor_of_boundary_zero hleft, isAnchor_of_boundary_zero hright, Bool.or_false,
    Bool.false_and]

end Path

/-! ### Analyses -/

namespace Analysis

/-- No type is resizable, and no template in use has a boundary. -/
structure IsFixed (analysis : Analysis) : Prop where
  types (ty : TypeId) : analysis.isResizable ty = false
  templates {id : MethodId} {template : Template}
    (htemplate : analysis.templates.get? id = some (.ok template)) : template.boundary = none

namespace IsFixed

variable {analysis : Analysis} (hfixed : analysis.IsFixed)
include hfixed

theorem preserves_isOpen : analysis.Preserves Trail.IsOpen where
  push segment ty htrail := by
    rw [hfixed.types]
    exact htrail.push segment
  splice htemplate htrail := htrail.splice (hfixed.templates htemplate)
  scope htrail := ⟨htrail.isClosed, htrail.fixedSuffix⟩

theorem boundary_of_trace {expr : Expr Site} {elementType : Option TypeId} {path : Path}
    (htrace : analysis.trace expr elementType = .ok path) : path.boundary = 0 := by
  obtain ⟨trail, htrail, rfl⟩ := hfixed.preserves_isOpen.exists_trail_of_trace .empty htrace
  exact htrail.boundary_finish

theorem boundary_of_traceBinding {binding : Binding} {path : Path}
    (htrace : analysis.traceBinding binding = .ok path) : path.boundary = 0 := by
  obtain ⟨trail, htrail, rfl⟩ :=
    hfixed.preserves_isOpen.exists_trail_of_traceBinding .empty htrace
  exact htrail.boundary_finish

theorem boundary_path (expr : Expr Site) (elementType : Option TypeId) :
    (analysis.path expr elementType).boundary = 0 := by
  cases htrace : analysis.trace expr elementType with
  | error failure =>
      rw [path_of_failure htrace]
      rfl
  | ok path => rw [path_of_trace htrace, hfixed.boundary_of_trace htrace]

theorem invalidationProblems_eq_nil (call : Expr Site) (arguments : List (Expr Site)) :
    analysis.invalidationProblems call arguments = [] := by
  refine List.flatMap_eq_nil_iff.mpr fun argument _ => ?_
  rw [List.map_eq_nil_iff, List.filter_eq_nil_iff]
  intro victim _
  rw [mayMove, Path.canInvalidate_of_boundary_zero (hfixed.boundary_path argument none)]
  exact Bool.false_ne_true

theorem sharingProblems_eq_nil (call : Expr Site) (arguments : List (Expr Site)) :
    analysis.sharingProblems call arguments = [] := by
  have hboundary := fun argument => hfixed.boundary_path argument none
  unfold sharingProblems
  rw [List.map_eq_nil_iff, List.filter_eq_nil_iff]
  intro pair _
  rw [mayShare, Path.canAlias_of_boundary_zero (hboundary _) (hboundary _),
    Path.canAlias_of_boundary_zero (hboundary _) (hboundary _), Bool.or_false]
  exact Bool.false_ne_true

theorem readsNoBoundary_of_mem_callProblems {call : Expr Site} {id : MethodId}
    {method : Method Site} {arguments : List (Expr Site)} {problem : Problem}
    (hproblem : problem ∈ analysis.callProblems call id method arguments) :
    problem.rule.ReadsNoBoundary := by
  rw [callProblems, List.mem_append, List.mem_append] at hproblem
  rcases hproblem with (huntraceable | hinvalidation) | hsharing
  · exact .inl (rule_of_mem_callProblemsOf huntraceable)
  · rw [callProblemsOf, hfixed.invalidationProblems_eq_nil, ite_self] at hinvalidation
    cases hinvalidation
  · rw [callProblemsOf, hfixed.sharingProblems_eq_nil] at hsharing
    cases hsharing

/-- The problems that are left are those for which no boundary is read. -/
theorem readsNoBoundary_of_mem_problems {problem : Problem}
    (hproblem : problem ∈ analysis.problems) : problem.rule.ReadsNoBoundary := by
  obtain ⟨node, _, hnode⟩ := List.mem_flatMap.mp hproblem
  unfold nodeProblems at hnode
  split at hnode
  · split at hnode
    · cases hnode
    · exact hfixed.readsNoBoundary_of_mem_callProblems hnode
  · split at hnode
    · rw [List.mem_singleton] at hnode
      subst hnode
      exact .inr rfl
    · cases hnode
  · cases hnode

end IsFixed

end Analysis

/-- A lowered program has the types of its document and the unknown one, which is not resizable. -/
theorem Document.Program.isResizable_of_lower {document : Document.Program}
    {program : RefStability.Program Site} (hlower : document.lower = .ok program)
    (htypes : ∀ type ∈ document.types, type.isResizable = false) (ty : TypeId) :
    program.isResizable ty = false := by
  have hprogram : program.types = unknownType :: document.types :=
    congrArg RefStability.Program.types (headers_of_lower hlower)
  rw [RefStability.Program.isResizable, hprogram]
  cases hget : (unknownType :: document.types)[ty]? with
  | none => rfl
  | some type =>
      rcases List.mem_cons.mp (List.mem_of_getElem? hget) with rfl | hmem
      · rfl
      · exact htypes type hmem

/-- In a program without resizable types, with templates that mark no boundary, every path has its
boundary at its root, and nothing is reported but arguments that cannot be traced and references
that leave their scope. -/
theorem fixed_program_unflagged {document : Document.Program} {analysis : Analysis}
    (hlower : document.lower = .ok analysis.program)
    (htypes : ∀ type ∈ document.types, type.isResizable = false)
    (htemplates : ∀ id template, analysis.templates.get? id = some (.ok template) →
      template.boundary = none) :
    (∀ expr elementType path, analysis.trace expr elementType = .ok path → path.boundary = 0) ∧
    (∀ binding path, analysis.traceBinding binding = .ok path → path.boundary = 0) ∧
    ∀ finding ∈ analysis.findings,
      (∃ argument reason, finding = .unverifiable argument reason) ∨
        ∃ statement path, finding = .escapesScope statement path := by
  have hfixed : analysis.IsFixed :=
    ⟨Document.Program.isResizable_of_lower hlower htypes, htemplates _ _⟩
  refine ⟨fun _ _ _ => hfixed.boundary_of_trace, fun _ _ => hfixed.boundary_of_traceBinding, ?_⟩
  intro finding hfinding
  rw [Analysis.findings_eq_map_problems] at hfinding
  obtain ⟨problem, hproblem, rfl⟩ := List.mem_map.mp hfinding
  have hrule := hfixed.readsNoBoundary_of_mem_problems hproblem
  cases problem with
  | untraceable argument failure => exact .inl ⟨_, _, rfl⟩
  | escape statement value => exact .inr ⟨_, _, rfl⟩
  | invalidation call argument victim => rcases hrule with hrule | hrule <;> cases hrule
  | sharing call first second => rcases hrule with hrule | hrule <;> cases hrule

/-- A reference into a store is taken through a template, a loop goes over what it leads to, and two
references into the store are passed to one call. -/
def slotDocument : Document.Program where
  file := 0
  types := [⟨"Store", false⟩, ⟨"Item", false⟩]
  methods :=
    [{ name := "Slot", signature := none, params := [⟨"store", some "Store", true⟩], kind := .plain
       path := some ["store", "slots", "[]"], returnsRef := true, locals := [], body := none },
     { name := "Swap", signature := none
       params := [⟨"left", some "Item", true⟩, ⟨"right", some "Item", true⟩], kind := .plain
       path := none, returnsRef := false, locals := [], body := none },
     { name := "run", signature := none, params := [⟨"store", some "Store", true⟩], kind := .plain
       path := none, returnsRef := false
       locals := [⟨"r", some "Item", .ref⟩, ⟨"item", some "Item", .ref⟩]
       body := some
        [.declare "r" (some (.call "Slot" [(.ref, .ident "store")] (some "Item"))),
         .forEach "item" (.ident "r")
          [.eval (.call "Swap" [(.ref, .ident "item"), (.ref, .ident "r")] none)],
         .eval (.call "Swap" [(.ref, .literal), (.ref, .ident "r")] none)] }]

/-- The path of the loop item goes through the template and the loop; the literal argument is all
that is reported. -/
theorem fixed_program_unflagged_slot : ∃ program body expr path,
    slotDocument.lower = .ok program ∧ body ∈ program.bodies ∧
      (Config.default.analysis program body).trace expr none = .ok path ∧
      path.segments = [.name "store", .name "slots", .index, .index] ∧ path.boundary = 0 ∧
      (Config.default.analysis program body).findings.length = 1 ∧
      ∀ finding ∈ (Config.default.analysis program body).findings,
        (∃ argument reason, finding = .unverifiable argument reason) ∨
          ∃ statement path, finding = .escapesScope statement path := by
  have hany : slotDocument.anyBody (fun program body =>
      (Config.default.analysis program body).findings.length == 1 &&
        ((Config.default.templatesFor program).entries.all fun entry =>
          entry.all fun parsed => parsed.toOption.all fun template => template.boundary.isNone) &&
        body.exprs[3]?.any fun expr =>
          (Config.default.analysis program body).trace expr none =
            .ok (.ofSegments [.name "store", .name "slots", .index, .index] 0 false)) = true := by
    decide +kernel
  obtain ⟨program, body, hlower, hbody, htest⟩ := Document.Program.exists_of_anyBody hany
  simp only [Bool.and_eq_true, List.all_eq_true, beq_iff_eq] at htest
  obtain ⟨⟨hlength, hentries⟩, htest⟩ := htest
  obtain ⟨expr, _, htrace⟩ := (Option.any_eq_true _ _).mp htest
  have htrace := of_decide_eq_true htrace
  have htemplates : ∀ id template, (Config.default.templatesFor program).get? id =
      some (.ok template) → template.boundary = none := by
    intro id template hget
    have hentry := hentries _ (List.mem_of_getElem? (Option.join_eq_some_iff.mp hget))
    exact Option.isNone_iff_eq_none.mp hentry
  obtain ⟨htraced, _, hfindings⟩ := @fixed_program_unflagged slotDocument
    (Config.default.analysis program body) hlower (by decide) htemplates
  exact ⟨program, body, expr, _, hlower, hbody, htrace, rfl, htraced expr none _ htrace, hlength,
    hfindings⟩

end RefStability
