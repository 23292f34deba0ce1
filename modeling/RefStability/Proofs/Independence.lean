import RefStability.Config
import RefStability.Proofs.Translation
import RefStability.Proofs.Visibility

/-!
# Methods are checked independently

What is reported about a method depends on the other methods of a document only through their
headers. Other bodies in the same document move the body of the method, and its diagnostics move
with it.
-/

namespace RefStability

variable {Label : Type}

/-! ### Templates -/

theorem Program.methodNamed?_headers (program : Program Label) (text : String) :
    program.headers.methodNamed? text = program.methodNamed? text := by
  rw [methodNamed?, headers, List.findIdx?_map, List.findIdx?_map]
  rfl

namespace TemplateTable

theorem ofProgram_headers (program : Program Label) :
    ofProgram program.headers = ofProgram program := by
  rw [ofProgram, Program.headers, List.map_map]
  rfl

theorem declare_headers (program : Program Label) (table : TemplateTable) (signature : String)
    (tokens : List String) :
    declare program.headers table signature tokens = declare program table signature tokens := by
  have hparams : ∀ id : MethodId, (program.headers.methods[id]?).elim [] (·.params) =
      (program.methods[id]?).elim [] (·.params) := by
    intro id
    rw [Program.headers, List.getElem?_map, Option.elim_map]
    rfl
  unfold declare
  simp only [Program.methodNamed?_headers, hparams]

theorem declareAll_headers (program : Program Label) (table : TemplateTable)
    (declarations : List (String × List String)) :
    declareAll program.headers table declarations = declareAll program table declarations := by
  simp only [declareAll, declare_headers]

end TemplateTable

/-- Templates depend on nothing but the headers of methods. -/
theorem Config.templatesFor_eq_of_headers (config : Config) {program other : Program Site}
    (hheaders : other.headers = program.headers) :
    config.templatesFor other = config.templatesFor program := by
  rw [templatesFor, templatesFor, ← TemplateTable.ofProgram_headers,
    ← TemplateTable.declareAll_headers, hheaders, TemplateTable.declareAll_headers,
    TemplateTable.ofProgram_headers]

/-! ### Diagnostics -/

def Diagnostic.shift (distance : Nat) (diagnostic : Diagnostic) : Diagnostic :=
  { diagnostic with location := diagnostic.location.shift distance }

variable {distance : Nat}

theorem Rule.selects_shift (rule : Rule) (finding : Finding) :
    rule.selects (finding.shift distance) = rule.selects finding := by
  cases rule <;> cases finding <;> rfl

theorem ActiveRule.diagnose_shift (active : ActiveRule) (signature : String) (finding : Finding) :
    active.diagnose signature (finding.shift distance) =
      (active.diagnose signature finding).shift distance := by
  cases finding <;> rfl

theorem ActiveRule.report_shift (active : ActiveRule) (signature : String)
    (findings : List Finding) :
    active.report signature (findings.map (Finding.shift distance)) =
      (active.report signature findings).map (Diagnostic.shift distance) := by
  have hselects : active.rule.selects ∘ Finding.shift distance = active.rule.selects :=
    funext fun finding => active.rule.selects_shift finding
  rw [report, report, List.filter_map, hselects, List.map_map, List.map_map]
  exact List.map_congr_left fun finding _ => active.diagnose_shift signature finding

theorem Linter.report_shift (rules : List ActiveRule) (signature : String)
    (findings : List Finding) :
    report rules signature (findings.map (Finding.shift distance)) =
      (report rules signature findings).map (Diagnostic.shift distance) := by
  rw [report, report, List.map_flatMap]
  exact List.flatMap_congr fun active _ => active.report_shift signature findings

/-- Sorting by where diagnostics start does not depend on where the body lies. -/
theorem mergeSort_shift (diagnostics : List Diagnostic) :
    (diagnostics.map (Diagnostic.shift distance)).mergeSort
        (fun left right => left.location.span.start ≤ right.location.span.start) =
      (diagnostics.mergeSort
        fun left right => left.location.span.start ≤ right.location.span.start).map
          (Diagnostic.shift distance) := by
  symm
  apply List.map_mergeSort
  intro left _ right _
  simp [Diagnostic.shift, Location.shift, Span.shift]

namespace Linter

variable (linter : Linter)

/-- The diagnostics of a method with the given body. -/
def lintBody (program : Program Site) (templates : TemplateTable) (signature : String)
    (body : Body Site) : List Diagnostic :=
  (report linter.rules signature
    (Analysis.mk program body templates linter.maxSteps).findings).mergeSort fun left right =>
      left.location.span.start ≤ right.location.span.start

theorem lintMethod_of_none {program : Program Site} {templates : TemplateTable} {id : MethodId}
    (hnone : program.methods[id]? = none) : linter.lintMethod program templates id = [] := by
  unfold lintMethod
  rw [hnone]

theorem lintMethod_of_body {program : Program Site} {templates : TemplateTable} {id : MethodId}
    {method : Method Site} (hmethod : program.methods[id]? = some method) :
    linter.lintMethod program templates id =
      (method.body.map (linter.lintBody program templates method.signature)).getD [] := by
  unfold lintMethod
  rw [hmethod]
  cases hbody : method.body <;> simp only [hbody] <;> rfl

theorem lintBody_shift {program other : Program Site} {templates : TemplateTable}
    {signature : String} {body : Body Site} (hheaders : other.headers = program.headers)
    (hfits : ∀ target expr, .use target expr ∈ body.events →
      expr.span.start + distance < maxPosition) :
    linter.lintBody other templates signature (body.shift distance) =
      (linter.lintBody program templates signature body).map (Diagnostic.shift distance) := by
  have hmoved : (Analysis.mk program body templates linter.maxSteps).IsMoved distance
      (Analysis.mk other (body.shift distance) templates linter.maxSteps) :=
    ⟨hheaders, rfl, rfl, rfl, hfits⟩
  rw [lintBody, lintBody, hmoved.findings_shift, report_shift, mergeSort_shift]

end Linter

/-- Where the body of a method starts; a method without a body starts nowhere. -/
def Program.bodyStart (program : Program Site) (id : MethodId) : Nat :=
  ((program.methods[id]?).bind (·.body)).elim 0 (·.label.span.start)

/-- What is reported about a method is what would be reported if it came first, shifted to where it
stands. -/
theorem Linter.lintMethod_place (linter : Linter) {program reference : Program Site}
    (templates : TemplateTable) {id : MethodId} {method : Method Label} {start : Nat}
    (hheaders : program.headers = reference.headers)
    (hmethod : program.methods[id]? = some (method.place start).1)
    (hlast : (method.place start).2 ≤ maxPosition) :
    linter.lintMethod program templates id =
      ((method.body.map fun body =>
        linter.lintBody reference templates method.signature (body.place 0).1).getD []).map
          (Diagnostic.shift (program.bodyStart id)) := by
  have hsignature : (method.place start).1.signature = method.signature := by
    unfold Method.place
    cases method.body <;> rfl
  rw [linter.lintMethod_of_body hmethod, hsignature, Program.bodyStart, hmethod, Option.bind_some,
    Method.body_place]
  cases hbody : method.body with
  | none => rfl
  | some body =>
      simp only [Method.place, hbody] at hlast
      have hplace : (body.place start).1 = (body.place 0).1.shift start := by
        rw [← Body.place_shift, Nat.zero_add]
      -- A window ends at the largest position at the latest; the shift must not bring a use there.
      have hfits : ∀ target expr, .use target expr ∈ (body.place 0).1.events →
          expr.span.start + start < maxPosition := by
        intro target expr huse
        have hevent : Event.use target (expr.shift start) ∈ (body.place start).1.events := by
          rw [hplace, Body.events_shift]
          exact List.mem_map_of_mem huse
        have hlt := (body.place_laid start hlast).use_start_lt hevent
        rwa [Expr.span_shift] at hlt
      simp only [Option.map_some, Option.getD_some, Option.elim_some, (body.span_place start).1]
      rw [hplace]
      exact linter.lintBody_shift hheaders hfits

/-! ### Documents -/

namespace Document

/-- What the bodies of other methods can see of a method, and what a check reads of it there. -/
def Method.interface (method : Method) : Method := { method with locals := [], body := none }

/-- The documents have the same method with the given number; of all other methods only the locals
and the bodies may differ. -/
structure Program.AgreesOn (id : MethodId) (document other : Program) : Prop where
  file : other.file = document.file
  types : other.types = document.types
  interfaces : other.methods.map Method.interface = document.methods.map Method.interface
  method : other.methods[id]? = document.methods[id]?

namespace Program.AgreesOn

variable {document other : Program} {id : MethodId} (hagrees : document.AgreesOn id other)
include hagrees

theorem map_interface {α : Type} (view : Method → α) :
    other.methods.map (fun method => view method.interface) =
      document.methods.map fun method => view method.interface := by
  have hview := congrArg (List.map view) hagrees.interfaces
  rwa [List.map_map, List.map_map] at hview

theorem looksLike : document.LooksLike other where
  file := hagrees.file
  types := by rw [hagrees.types]
  methods := ⟨hagrees.map_interface (·.effectiveSignature), hagrees.map_interface (·.name)⟩

theorem headers_eq {program otherProgram : RefStability.Program Site}
    (hlower : document.lower = .ok program) (hother : other.lower = .ok otherProgram) :
    otherProgram.headers = program.headers := by
  have hmethods : other.methods.map (·.withBody none) = document.methods.map (·.withBody none) :=
    hagrees.map_interface (·.withBody none)
  rw [headers_of_lower hlower, headers_of_lower hother, hagrees.file, hagrees.types, hmethods]

end Program.AgreesOn

end Document

theorem Diagnostic.shift_comm (first second : Nat) (diagnostic : Diagnostic) :
    (diagnostic.shift first).shift second = (diagnostic.shift second).shift first := by
  simp only [shift, Location.shift, Span.shift, Nat.add_right_comm]

/-- Methods are checked independently: the same diagnostics are reported in the same order, each as
far from where the body of the method starts as in the other document. -/
theorem lintMethod_independent {document other : Document.Program}
    {program otherProgram : Program Site} {id : MethodId} (hagrees : document.AgreesOn id other)
    (hlower : document.lower = .ok program) (hother : other.lower = .ok otherProgram)
    (config : Config) :
    (config.linter.lintMethod otherProgram (config.templatesFor otherProgram) id).map
        (Diagnostic.shift (program.bodyStart id)) =
      (config.linter.lintMethod program (config.templatesFor program) id).map
        (Diagnostic.shift (otherProgram.bodyStart id)) := by
  have hheaders := hagrees.headers_eq hlower hother
  rw [config.templatesFor_eq_of_headers hheaders]
  cases hsource : document.methods[id]? with
  | none =>
      have hnone := Document.Program.methods_none_of_lower hlower hsource
      have hotherNone := Document.Program.methods_none_of_lower hother
        (hagrees.method.trans hsource)
      rw [config.linter.lintMethod_of_none hnone, config.linter.lintMethod_of_none hotherNone]
      rfl
  | some source =>
      obtain ⟨result, start, hresult, hmethod, hlast⟩ :=
        Document.Program.exists_method_of_lower hlower hsource
      obtain ⟨otherResult, otherStart, hotherResult, hotherMethod, hotherLast⟩ :=
        Document.Program.exists_method_of_lower hother (hagrees.method.trans hsource)
      rw [Document.Method.resolve_of_looksLike hagrees.looksLike, hresult] at hotherResult
      cases hotherResult
      -- Both lists are shifts of what would be reported if the body came first.
      rw [config.linter.lintMethod_place _ rfl hmethod hlast,
        config.linter.lintMethod_place _ hheaders hotherMethod hotherLast, List.map_map,
        List.map_map]
      exact List.map_congr_left fun diagnostic _ => diagnostic.shift_comm _ _

/-- `branchDocument` without the body of `pick`. -/
def bareBranchDocument : Document.Program :=
  { branchDocument with
    methods := branchDocument.methods.map fun method =>
      if method.name = "pick" then method.interface else method }

/-- The loop in `run` is reported in both documents, at different places. -/
theorem lintMethod_independent_branch : ∃ program otherProgram,
    branchDocument.lower = .ok program ∧ bareBranchDocument.lower = .ok otherProgram ∧
      otherProgram.bodyStart 2 < program.bodyStart 2 ∧
      (Config.default.linter.lintMethod otherProgram (Config.default.templatesFor otherProgram)
        2).map (Diagnostic.shift (program.bodyStart 2)) =
      (Config.default.linter.lintMethod program (Config.default.templatesFor program) 2).map
        (Diagnostic.shift (otherProgram.bodyStart 2)) ∧
      (Config.default.linter.lintMethod program (Config.default.templatesFor program) 2).length =
        1 := by
  have hany : branchDocument.anyBody (fun program _ => program.bodyStart 2 == 28 &&
      (Config.default.linter.lintMethod program (Config.default.templatesFor program) 2).length
        == 1) = true := by
    decide +kernel
  have hotherAny : bareBranchDocument.anyBody (fun program _ => program.bodyStart 2 == 0) =
      true := by
    decide +kernel
  obtain ⟨program, _, hlower, _, htest⟩ := Document.Program.exists_of_anyBody hany
  obtain ⟨otherProgram, _, hother, _, hotherTest⟩ := Document.Program.exists_of_anyBody hotherAny
  rw [Bool.and_eq_true_iff] at htest
  have hstart := eq_of_beq htest.1
  have hotherStart := eq_of_beq hotherTest
  have hagrees : branchDocument.AgreesOn 2 bareBranchDocument := ⟨rfl, rfl, rfl, rfl⟩
  exact ⟨program, otherProgram, hlower, hother, by omega,
    lintMethod_independent hagrees hlower hother Config.default, eq_of_beq htest.2⟩

end RefStability
