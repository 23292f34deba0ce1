import RefStability.Proofs.CheckByNumber
import RefStability.Proofs.Diagnostics

/-!
# The analysis has a result

No look-up by number fails in the analysis of a lowered document, whatever templates are declared
for its methods: whatever is computed by number, up to the diagnostics of the whole program, has a
result, and that is the one found along the trees.
-/

namespace RefStability

/-! ### The linter -/

namespace Linter

variable (linter : Linter) (program : Program Site) (templates : TemplateTable)

def lintMethod? (id : MethodId) : Option (List Diagnostic) := do
  let method ← program.methods[id]?
  match method.body with
  | none => return []
  | some body =>
    let findings ← (Analysis.mk program body templates linter.maxSteps).findings?
    return (report linter.rules method.signature findings).mergeSort fun left right =>
      left.location.span.start ≤ right.location.span.start

def lintProgram? : Option (List Diagnostic) := do
  let reports ← (List.range program.methods.length).mapM (linter.lintMethod? program templates)
  return reports.flatten

end Linter

/-! ### Lowered documents -/

/-- What is computed by number on a body has the results that are found along its tree. -/
structure Analysis.Unfailing (analysis : Analysis) : Prop where
  visit : analysis.body.visit? analysis.body.nesting (Node.stmt analysis.body.root.toStmt).id =
    some analysis.body.nodes
  events : analysis.body.events? = some analysis.body.events
  resolve : ∀ number expr, analysis.body.exprs[number]? = some expr →
    analysis.body.resolveBy? analysis.body.events number = some (analysis.body.resolve? expr)
  trace : ∀ number expr elementType, analysis.body.exprs[number]? = some expr →
    (∀ ty ∈ elementType, ty < analysis.program.types.length) →
      analysis.trace? analysis.body.events number elementType =
        some (analysis.trace expr elementType)
  traceBinding : ∀ binding, Event.bind binding ∈ analysis.body.events →
    analysis.traceBinding? analysis.body.events binding = some (analysis.traceBinding binding)
  live : ∀ position,
    analysis.liveAt? analysis.body.events position = some (analysis.liveAt position)
  findings : analysis.findings? = some analysis.findings

theorem Analysis.WellFormed.unfailing {analysis : Analysis} (hanalysis : analysis.WellFormed) :
    analysis.Unfailing where
  visit := hanalysis.order.visit?_root
  events := hanalysis.order.events?_eq
  resolve _ _ hexpr := Body.resolveBy?_eq hexpr
  trace _ _ _ hexpr htype := hanalysis.trace?_eq hexpr htype
  traceBinding _ hevent := hanalysis.traceBinding?_eq hevent
  live := hanalysis.liveAt?_eq
  findings := hanalysis.findings?_eq

section Lowered

variable {document : Document.Program} {program : Program Site}
  (hlower : document.lower = .ok program) (table : TemplateTable)
include hlower

theorem wellFormed_of_lower {id : MethodId} {method : Method Site} {body : Body Site}
    (hmethod : program.methods[id]? = some method) (hbody : method.body = some body)
    (maxSteps : Nat) : (Analysis.mk program body table maxSteps).WellFormed := by
  obtain ⟨_, horder, hgrounded⟩ := Document.Program.grounded_of_lower hlower hmethod hbody
  have hfound : (program.methods[id]?).bind (·.body) = some body := by
    rw [hmethod, Option.bind_some, hbody]
  exact ⟨Document.Program.lower_laid hlower (Program.mem_bodies hfound), horder, hgrounded⟩

theorem lintMethod?_of_lower (linter : Linter) {id : MethodId} (hid : id < program.methods.length) :
    linter.lintMethod? program table id = some (linter.lintMethod program table id) := by
  have hmethod := List.getElem?_eq_getElem hid
  simp only [Linter.lintMethod?, Linter.lintMethod, hmethod, Option.bind_eq_bind, Option.bind_some]
  cases hbody : program.methods[id].body with
  | none => rfl
  | some body =>
      have hanalysis := wellFormed_of_lower hlower table hmethod hbody linter.maxSteps
      simp only [hanalysis.findings?_eq]
      rfl

theorem lintProgram?_of_lower (linter : Linter) :
    linter.lintProgram? program table = some (linter.lintProgram program table) := by
  have hreports : (List.range program.methods.length).mapM (linter.lintMethod? program table) =
      some ((List.range program.methods.length).map (linter.lintMethod program table)) := by
    apply mapM_eq_some_map
    intro id hid
    exact lintMethod?_of_lower hlower table linter (List.mem_range.mp hid)
  rw [Linter.lintProgram?, hreports, Linter.lintProgram, List.flatMap_def]
  rfl

end Lowered

/-- The numbers in the bodies of a lowered document are in range. With any table of templates that
declarations give, every computation by number has the result that is found along the trees: on a
body, on the whole program, on two paths, on a template and in the next declaration. -/
theorem analysis_unfailing {document : Document.Program} {program : Program Site}
    (hlower : document.lower = .ok program) {table : TemplateTable}
    (htable : table.Reachable program) (linter : Linter) :
    (∀ (id : MethodId) (method : Method Site) (body : Body Site),
      program.methods[id]? = some method → method.body = some body →
        body.Grounded program ∧ (Analysis.mk program body table linter.maxSteps).Unfailing) ∧
    linter.lintProgram? program table = some (linter.lintProgram program table) ∧
    (∀ left right : Path, left.relation? right = some (left.relation right)) ∧
    (∀ (path : Path) (start : Nat),
      path.resizableAccessSince? start = some (path.resizableAccessSince start)) ∧
    (∀ id template, table.get? id = some (.ok template) →
      template.fixedSuffix? = some template.fixedSuffix) ∧
    ∀ signature tokens, TemplateTable.declare? program table signature tokens =
      some (TemplateTable.declare program table signature tokens) := by
  refine ⟨?_, lintProgram?_of_lower hlower table linter, Path.relation?_eq,
    Path.resizableAccessSince?_eq, ?_, htable.declare?_eq⟩
  · intro id method body hmethod hbody
    have hanalysis := wellFormed_of_lower hlower table hmethod hbody linter.maxSteps
    exact ⟨hanalysis.grounded, hanalysis.unfailing⟩
  · intro id template _
    exact template.fixedSuffix?_eq

/-- A declaration that is rejected is found in its entry, and both findings in `run` are found by
number. -/
theorem analysis_unfailing_list : ∃ (program : Program Site) (method : Method Site)
    (body : Body Site) (table : TemplateTable), listDocument.lower = .ok program ∧
      program.methods[2]? = some method ∧ method.body = some body ∧ table.Reachable program ∧
      table.get? 2 = some (.error (.unknownRoot "list")) ∧
      (Analysis.mk program body table defaultMaxSteps).findings?.map List.length = some 2 ∧
      (Linter.default.lintProgram? program table).isSome = true := by
  have hany : listDocument.anyBody (fun program _ => (program.methods[2]?).any fun method =>
      method.body.any fun body =>
        let table := (TemplateTable.declare program (.ofProgram program) "run" ["list"]).2
        table.get? 2 == some (.error (.unknownRoot "list")) &&
          (Analysis.mk program body table defaultMaxSteps).findings.length == 2) = true := by
    decide +kernel
  obtain ⟨program, _, hlower, _, htest⟩ := Document.Program.exists_of_anyBody hany
  obtain ⟨method, hmethod, htest⟩ := (Option.any_eq_true _ _).mp htest
  obtain ⟨body, hbody, htest⟩ := (Option.any_eq_true _ _).mp htest
  obtain ⟨hentry, hlength⟩ := Bool.and_eq_true_iff.mp htest
  have htable : (TemplateTable.declare program (.ofProgram program) "run" ["list"]).2.Reachable
      program := .declare "run" ["list"] .ofProgram
  obtain ⟨hbodies, hlint, _⟩ := analysis_unfailing hlower htable Linter.default
  refine ⟨program, method, body, _, hlower, hmethod, hbody, htable, eq_of_beq hentry, ?_, ?_⟩
  · have hfindings := (hbodies 2 method body hmethod hbody).2.findings
    rw [show Linter.default.maxSteps = defaultMaxSteps from rfl] at hfindings
    rw [hfindings, Option.map_some, eq_of_beq hlength]
  · rw [hlint, Option.isSome_some]

end RefStability
