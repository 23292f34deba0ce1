import RefStability.Proofs.Roots
import RefStability.Proofs.TraceByNumber

/-!
# The paths that walks build

The path with no segments stands for what cannot be traced, so a walk that succeeds must give
another one. It does, since the last step of a walk puts the name of a root in front. On the way
there the segments that are counted as lying after the boundary are some of those collected, so that
the boundary of the path is a difference that exists and lies within the path.
-/

namespace RefStability

/-- A path that starts with a name; at least that name comes before its first view call. -/
structure Path.Rooted (path : Path) : Prop where
  nonempty : path.segments ≠ []
  root : ∃ name, path.root? = some (.name name)
  one_le_explicitLength : 1 ≤ path.explicitLength
  explicitLength_le : path.explicitLength ≤ path.length

/-- The path has the segments of the trail and its boundary before exactly those that the trail
counts, without any cut. -/
structure Trail.Builds (trail : Trail) (path : Path) : Prop where
  segments : path.segments = trail.segments
  boundary : path.boundary + trail.fixedSuffix = trail.segments.length
  isScoped : path.isScoped = trail.isScoped

theorem Path.rooted_of_root? {path : Path} {name : String}
    (hroot : path.root? = some (.name name)) : path.Rooted := by
  obtain ⟨rest, hsegments⟩ := List.head?_eq_some_iff.mp hroot
  refine ⟨?_, ⟨name, hroot⟩, ?_, path.explicitLength_le_length⟩
  · rw [hsegments]
    exact List.cons_ne_nil _ _
  · rw [explicitLength, explicit, hsegments, List.takeWhile_cons_of_pos rfl, List.length_cons]
    exact Nat.le_add_left 1 _

theorem Trail.Valid.builds {trail : Trail} (htrail : trail.Valid) : trail.Builds trail.finish where
  segments := rfl
  boundary := by
    have hle := htrail.fixedSuffix_le
    simp only [finish, Path.ofSegments]
    omega
  isScoped := rfl

namespace Analysis

/-- The trails of the walk from an expression, or from an element of what it leads to. -/
def trailsOf (analysis : Analysis) (expr : Expr Site) (elementType : Option TypeId) : List Trail :=
  analysis.trails analysis.maxSteps (analysis.startTrail elementType) expr

variable {analysis : Analysis}

theorem valid_of_mem_trailsOf {expr : Expr Site} {elementType : Option TypeId} {trail : Trail}
    (htrail : trail ∈ analysis.trailsOf expr elementType) : trail.Valid :=
  analysis.preserves_valid.holds_of_mem_trails
    (analysis.preserves_valid.holds_startTrail Trail.valid_empty elementType) htrail

theorem rooted_of_trace {expr : Expr Site} {elementType : Option TypeId} {path : Path}
    (htrace : analysis.trace expr elementType = .ok path) : path.Rooted := by
  obtain ⟨_, _, _, _, hroot⟩ := root_of_trace htrace
  exact Path.rooted_of_root? hroot

theorem builds_of_trace {expr : Expr Site} {elementType : Option TypeId} {path : Path}
    (htrace : analysis.trace expr elementType = .ok path) :
    ∃ last, (analysis.trailsOf expr elementType).getLast? = some last ∧ last.Builds path := by
  rw [trace_eq_walk] at htrace
  obtain ⟨last, hlast, rfl⟩ := exists_last_of_walk htrace
  exact ⟨last, hlast, (valid_of_mem_trailsOf (List.mem_of_getLast? hlast)).builds⟩

end Analysis

/-- The path that stands for a failure has no segments, and a path that is built has some. -/
theorem isRepresentable_pathOrUnrepresentable {result : Except TraceFailure Path}
    (hrooted : ∀ path, result = .ok path → path.Rooted) :
    (pathOrUnrepresentable result).isRepresentable = true ↔ ∃ path, result = .ok path := by
  rw [Path.isRepresentable_iff]
  cases result with
  | error failure => exact iff_of_false (fun hne => hne rfl) (by simp)
  | ok path => exact iff_of_true (hrooted path rfl).nonempty ⟨path, rfl⟩

/-- No walk counts more segments after the boundary than it has collected. A path that is built is
not empty, starts with a name, and has the boundary that its trail counts. So a path leads somewhere
if and only if it could be traced, be it the path of an expression or that of a binding. -/
theorem built_paths_wellFormed (analysis : Analysis) :
    (∀ (expr : Expr Site) (elementType : Option TypeId),
      (∀ trail ∈ analysis.trailsOf expr elementType,
        trail.fixedSuffix ≤ trail.segments.length) ∧
      (∀ path, analysis.trace expr elementType = .ok path → path.Rooted ∧
        ∃ last, (analysis.trailsOf expr elementType).getLast? = some last ∧ last.Builds path) ∧
      ((analysis.path expr elementType).isRepresentable = true ↔
        ∃ path, analysis.trace expr elementType = .ok path)) ∧
    ∀ binding : Binding,
      (∀ path, analysis.traceBinding binding = .ok path → path.Rooted ∧
        ∃ elementType last,
          (analysis.trailsOf binding.producer elementType).getLast? = some last ∧
            last.Builds path) ∧
      ((analysis.bindingPath binding).isRepresentable = true ↔
        ∃ path, analysis.traceBinding binding = .ok path) := by
  constructor
  · intro expr elementType
    refine ⟨?_, ?_, ?_⟩
    · intro trail htrail
      exact (Analysis.valid_of_mem_trailsOf htrail).fixedSuffix_le
    · intro path htrace
      exact ⟨Analysis.rooted_of_trace htrace, Analysis.builds_of_trace htrace⟩
    · exact isRepresentable_pathOrUnrepresentable fun _ => Analysis.rooted_of_trace
  · intro binding
    have htraced : ∀ path, analysis.traceBinding binding = .ok path →
        ∃ elementType, analysis.trace binding.producer elementType = .ok path := fun _ =>
      Analysis.exists_trace_of_traceBinding
    constructor
    · intro path htrace
      obtain ⟨elementType, hproducer⟩ := htraced path htrace
      exact ⟨Analysis.rooted_of_trace hproducer, elementType, Analysis.builds_of_trace hproducer⟩
    · refine isRepresentable_pathOrUnrepresentable fun path htrace => ?_
      obtain ⟨_, hproducer⟩ := htraced path htrace
      exact Analysis.rooted_of_trace hproducer

/-- A field of an element of a list: two segments lie after the boundary, and with too few steps
there is no path. -/
theorem built_paths_wellFormed_field : ∃ (analysis : Analysis) (expr : Expr Site) (path : Path),
    listDocument.lower = .ok analysis.program ∧ analysis.body ∈ analysis.program.bodies ∧
      analysis.trace expr none = .ok path ∧ path.Rooted ∧ path.boundary = 1 ∧
      (∃ last ∈ analysis.trailsOf expr none, last.segments.length = 3 ∧ last.fixedSuffix = 2) ∧
      (analysis.path expr none).isRepresentable = true ∧
      ((analysis.withMaxSteps 2).path expr none).isRepresentable = false := by
  have hany : listDocument.anyBody (fun program body => body.exprs[5]?.any fun expr =>
      let analysis := Analysis.mk program body (.ofProgram program) 6
      decide (analysis.trace expr none =
          .ok (.ofSegments [.name "list", .index, .name "size"] 1 false)) &&
        decide ((analysis.withMaxSteps 2).trace expr none = .error (.stepLimit 2))) = true := by
    decide +kernel
  obtain ⟨program, body, hlower, hbody, htest⟩ := Document.Program.exists_of_anyBody hany
  obtain ⟨expr, _, htest⟩ := (Option.any_eq_true _ _).mp htest
  simp only [Bool.and_eq_true, decide_eq_true_eq] at htest
  obtain ⟨htrace, hcut⟩ := htest
  let analysis : Analysis := ⟨program, body, .ofProgram program, 6⟩
  obtain ⟨_, hbuilt, hrepresentable⟩ := (built_paths_wellFormed analysis).1 expr none
  obtain ⟨hrooted, last, hlast, hbuilds⟩ := hbuilt _ htrace
  have hlength : last.segments.length = 3 := congrArg List.length hbuilds.segments.symm
  have hboundary : 1 + last.fixedSuffix = 3 := hbuilds.boundary.trans hlength
  refine ⟨analysis, expr, _, hlower, hbody, htrace, hrooted, rfl,
    ⟨last, List.mem_of_getLast? hlast, hlength, by omega⟩, hrepresentable.mpr ⟨_, htrace⟩, ?_⟩
  rw [Bool.eq_false_iff, ne_eq,
    ((built_paths_wellFormed (analysis.withMaxSteps 2)).1 expr none).2.2]
  rintro ⟨path, hpath⟩
  cases hcut.symm.trans hpath

end RefStability
