import RefStability.Finding.Check
import RefStability.Proofs.SourceOrder

/-!
# Where a body is checked

A body is checked at its calls and its returns. A walk meets each of those that are numbered once,
at whatever depth, and in the order in which they start: a return before the calls in its value, a
call before the calls in its arguments. The findings of a body are what is found there, in that
order.
-/

namespace RefStability

variable {Label : Type}

def Expr.isCall : Expr Label → Bool
  | .call _ _ _ _ => true
  | _ => false

def Stmt.isReturn : Stmt Label → Bool
  | .ret _ _ => true
  | _ => false

def Node.isChecked : Node Label → Bool
  | .expr value => value.isCall
  | .stmt value => value.isReturn

/-- The calls and the returns of a body in the order of their numbers, the calls first. -/
def Body.checkedNodes (body : Body Site) : List (Node Site) :=
  (body.exprs.filter Expr.isCall).map .expr ++ (body.stmts.filter Stmt.isReturn).map .stmt

/-! ### Nodes by kind -/

theorem Node.perm_kinds (nodes : List (Node Label)) :
    nodes.Perm ((nodes.filterMap expr?).map .expr ++ (nodes.filterMap stmt?).map .stmt) := by
  induction nodes with
  | nil => exact List.Perm.nil
  | cons node rest ih =>
      cases node with
      | expr expr => exact ih.cons (.expr expr)
      | stmt stmt => exact (ih.cons (.stmt stmt)).trans List.perm_middle.symm

/-- A walk meets what is numbered, but for the statement with number 0. -/
theorem Body.nodes_perm (body : Body Site) :
    body.nodes.Perm (body.exprs.map .expr ++ body.stmts.tail.map .stmt) :=
  (Node.perm_kinds body.nodes).trans
    ((body.visited_exprs_perm.map _).append (body.visited_stmts_perm.map _))

theorem Body.checkedNodes_perm (body : Body Site) :
    (body.nodes.filter Node.isChecked).Perm body.checkedNodes := by
  have hstmts : body.stmts.filter Stmt.isReturn = body.stmts.tail.filter Stmt.isReturn := rfl
  have hperm := body.nodes_perm.filter Node.isChecked
  rw [List.filter_append, List.filter_map, List.filter_map] at hperm
  rw [Body.checkedNodes, hstmts]
  exact hperm

theorem Body.mem_nodes_of_below {body : Body Site} {node below : Node Site}
    (hnode : node ∈ body.nodes) (hbelow : below ∈ node.nodes) : below ∈ body.nodes := by
  induction node using Node.induction with
  | step node ih =>
      rw [Node.nodes_eq, List.mem_cons, List.mem_flatMap] at hbelow
      rcases hbelow with rfl | ⟨part, hpart, hbelow⟩
      · exact hnode
      · exact ih part hpart (Body.mem_nodes_of_part hnode hpart) hbelow

/-- What stands below a node starts after it. -/
theorem Body.IsLaid.start_lt_of_below {body : Body Site} (hlaid : body.IsLaid)
    {node part below : Node Site} (hnode : node ∈ body.nodes) (hpart : part ∈ node.parts)
    (hbelow : below ∈ part.nodes) : node.span.start < below.span.start := by
  have hinside := (hlaid.part_between hnode hpart).1
  have hafter := (hlaid.below_between (Body.mem_nodes_of_part hnode hpart) hbelow).1
  omega

/-- In a list in the order of its starts, what starts earlier stands earlier. -/
theorem sublist_pair_of_start_lt {α : Type} {values : List α} {start : α → Nat}
    (hordered : values.Pairwise fun earlier later => start earlier < start later)
    {first second : α} (hfirst : first ∈ values) (hsecond : second ∈ values)
    (hlt : start first < start second) : [first, second].Sublist values := by
  obtain ⟨before, after, rfl⟩ := List.append_of_mem hfirst
  rw [List.pairwise_append] at hordered
  rcases List.mem_append.mp hsecond with hbefore | hafter
  · have hgt := hordered.2.2 second hbefore first List.mem_cons_self
    omega
  · rcases List.mem_cons.mp hafter with rfl | hafter
    · exact absurd hlt (Nat.lt_irrefl _)
    · exact ((List.singleton_sublist.mpr hafter).cons_cons first).trans
        (List.sublist_append_right before _)

/-! ### Findings -/

namespace Analysis

variable (analysis : Analysis)

theorem checkNode_of_not_isChecked {node : Node Site} (hnode : node.isChecked = false) :
    analysis.checkNode node = [] := by
  cases node with
  | expr expr =>
      cases expr with
      | call => cases hnode
      | _ => rfl
  | stmt stmt =>
      cases stmt with
      | ret => cases hnode
      | _ => rfl

theorem findings_eq_checked :
    analysis.findings =
      (analysis.body.nodes.filter Node.isChecked).flatMap analysis.checkNode := by
  rw [findings]
  induction analysis.body.nodes with
  | nil => rfl
  | cons node rest ih =>
      rw [List.flatMap_cons, List.filter_cons, ih]
      split
      · rw [List.flatMap_cons]
      · rename_i hnode
        rw [analysis.checkNode_of_not_isChecked (Bool.eq_false_iff.mpr hnode), List.nil_append]

end Analysis

/-- The findings of a lowered body are those at its calls and returns: each of the numbered ones
once, and in the order of where they start, so that whatever holds a call is checked before it. -/
theorem findings_cover_body {document : Document.Program} {program : Program Site}
    (hlower : document.lower = .ok program) {body : Body Site} (hbody : body ∈ program.bodies)
    (templates : TemplateTable) (maxSteps : Nat) :
    ∃ checked : List (Node Site), checked.Perm body.checkedNodes ∧
      (checked.Pairwise fun earlier later => earlier.span.start < later.span.start) ∧
      (∀ outer ∈ checked, ∀ part ∈ outer.parts, ∀ inner ∈ part.nodes, inner.isChecked = true →
        [outer, inner].Sublist checked) ∧
      (Analysis.mk program body templates maxSteps).findings =
        checked.flatMap (Analysis.mk program body templates maxSteps).checkNode := by
  have hlaid := Document.Program.lower_laid hlower hbody
  have hordered := hlaid.nodes_start_lt.filter Node.isChecked
  refine ⟨body.nodes.filter Node.isChecked, body.checkedNodes_perm, hordered, ?_,
    Analysis.findings_eq_checked _⟩
  intro outer houter part hpart inner hinner hchecked
  have hnode := (List.mem_filter.mp houter).1
  have hmem : inner ∈ body.nodes.filter Node.isChecked := List.mem_filter.mpr
    ⟨Body.mem_nodes_of_below (Body.mem_nodes_of_part hnode hpart) hinner, hchecked⟩
  exact sublist_pair_of_start_lt hordered houter hmem
    (hlaid.start_lt_of_below hnode hpart hinner)

/-- Calls in the arguments of calls, in the value of a return and in a condition. -/
def nestedDocument : Document.Program where
  file := 0
  types := [⟨"List", true⟩]
  methods :=
    [{ name := "Make", signature := none, params := [], kind := .plain, path := none
       returnsRef := true, locals := [], body := none },
     { name := "Wrap", signature := none, params := [], kind := .plain, path := none
       returnsRef := true, locals := [], body := none },
     { name := "run", signature := none, params := [], kind := .plain, path := none
       returnsRef := true, locals := [⟨"list", some "List", .value⟩]
       body := some
        [.ifThen (.call "Make" [] none)
          [.ret (some (.call "Wrap"
            [(.ref, .call "Wrap" [(.ref, .call "Make" [] none)] none), (.ref, .ident "list"),
             (.ref, .ident "list")] none))]] }]

/-- The four calls and the return are checked, and there are three findings. -/
theorem findings_cover_body_nested : ∃ (program : Program Site) (body : Body Site)
    (checked : List (Node Site)), nestedDocument.lower = .ok program ∧ body ∈ program.bodies ∧
      checked.Perm body.checkedNodes ∧ checked.length = 5 ∧
      (checked.Pairwise fun earlier later => earlier.span.start < later.span.start) ∧
      (checked.flatMap
        (Analysis.mk program body (.ofProgram program) defaultMaxSteps).checkNode).length = 3 := by
  have hany : nestedDocument.anyBody (fun program body => body.checkedNodes.length == 5 &&
      (Analysis.mk program body (.ofProgram program) defaultMaxSteps).findings.length == 3) =
        true := by
    decide +kernel
  obtain ⟨program, body, hlower, hbody, htest⟩ := Document.Program.exists_of_anyBody hany
  obtain ⟨hlength, hfindings⟩ := Bool.and_eq_true_iff.mp htest
  obtain ⟨checked, hperm, hordered, _, heq⟩ :=
    findings_cover_body hlower hbody (.ofProgram program) defaultMaxSteps
  refine ⟨program, body, checked, hlower, hbody, hperm, ?_, hordered, ?_⟩
  · rw [hperm.length_eq, eq_of_beq hlength]
  · rw [← heq, eq_of_beq hfindings]

end RefStability
