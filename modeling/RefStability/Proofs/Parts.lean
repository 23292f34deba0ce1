import Mathlib.Data.List.Perm.Basic
import RefStability.Program.Walk

/-!
# The parts of a node

A body is one tree of statements and expressions. What a body is read as (its nodes, its expressions
in the order of their numbers) is described here for one node in terms of its parts, so that a fact
about a whole tree needs one case and not one for every form of node.
-/

namespace RefStability

variable {Label : Type}

def Expr.parts : Expr Label → List (Expr Label)
  | .literal _ => []
  | .localVar _ _ => []
  | .param _ _ => []
  | .staticField _ _ _ => []
  | .field _ receiver _ _ => [receiver]
  | .index _ receiver operands _ => receiver :: operands
  | .slice _ receiver operands _ => receiver :: operands
  | .scopeValue _ scope _ => [scope]
  | .call _ _ args _ => args.map Prod.snd
  | .computed _ operands _ => operands

def Stmt.parts : Stmt Label → List (Node Label)
  | .declare _ _ init => init.toList.map .expr
  | .rebind _ _ value => [.expr value]
  | .assign _ target value => [.expr target, .expr value]
  | .eval _ value => [.expr value]
  | .ret _ value => value.toList.map .expr
  | .block _ stmts => stmts.map .stmt
  | .ifThen _ condition thenBody => [.expr condition, .stmt thenBody.toStmt]
  | .ifElse _ condition thenBody elseBody =>
    [.expr condition, .stmt thenBody.toStmt, .stmt elseBody.toStmt]
  | .loop _ condition body => [.expr condition, .stmt body.toStmt]
  | .forEach _ _ collection body => [.expr collection, .stmt body.toStmt]

namespace Node

/-- The nodes directly below a node, in source order. -/
def parts : Node Label → List (Node Label)
  | .stmt value => value.parts
  | .expr value => value.parts.map .expr

def label : Node Label → Label
  | .stmt value => value.label
  | .expr value => value.label

def span (node : Node Site) : Span := node.label.span

def nodes : Node Label → List (Node Label)
  | .stmt value => value.nodes
  | .expr value => value.nodes

/-- The expressions among the nodes, each after its own parts. -/
def exprs : Node Label → List (Expr Label)
  | .stmt value => value.exprs
  | .expr value => value.postorder

/-- The statements among the nodes, each after its own parts. -/
def stmts : Node Label → List (Stmt Label)
  | .stmt value => value.postorder
  | .expr _ => []

@[simp]
theorem span_expr (expr : Expr Site) : (Node.expr expr).span = expr.span := rfl

end Node

@[simp]
theorem Block.sizeOf_toStmt (block : Block Label (Stmt Label)) :
    sizeOf block.toStmt = sizeOf block := by
  cases block
  simp [toStmt]

/-! ### Induction over the parts -/

theorem Expr.sizeOf_part_lt (expr part : Expr Label) (hpart : part ∈ expr.parts) :
    sizeOf part < sizeOf expr := by
  cases expr with
  | literal | localVar | param | staticField => simp [parts] at hpart
  | field | scopeValue =>
      simp only [parts, List.mem_singleton] at hpart
      subst hpart
      simp only [field.sizeOf_spec, scopeValue.sizeOf_spec]
      omega
  | index label receiver operands ty | slice label receiver operands ty =>
      rw [parts, List.mem_cons] at hpart
      simp only [index.sizeOf_spec, slice.sizeOf_spec]
      rcases hpart with rfl | hoperand
      · omega
      · have hlt := List.sizeOf_lt_of_mem hoperand
        omega
  | call label method args ty =>
      rw [parts, List.mem_map] at hpart
      obtain ⟨⟨mode, part⟩, hargument, rfl⟩ := hpart
      have hlt := List.sizeOf_lt_of_mem hargument
      rw [Prod.mk.sizeOf_spec] at hlt
      rw [call.sizeOf_spec]
      dsimp only
      omega
  | computed label operands ty =>
      rw [parts] at hpart
      have hlt := List.sizeOf_lt_of_mem hpart
      rw [computed.sizeOf_spec]
      omega

theorem Stmt.sizeOf_part_lt (stmt : Stmt Label) (part : Node Label) (hpart : part ∈ stmt.parts) :
    sizeOf part < sizeOf (Node.stmt stmt) := by
  rw [Node.stmt.sizeOf_spec]
  cases stmt with
  | declare label target init | ret label init =>
      cases init with
      | none => simp [parts] at hpart
      | some init =>
          simp only [parts, Option.toList_some, List.map_cons, List.map_nil,
            List.mem_singleton] at hpart
          subst hpart
          simp only [Node.expr.sizeOf_spec, declare.sizeOf_spec, ret.sizeOf_spec,
            Option.some.sizeOf_spec]
          omega
  | block label stmts =>
      rw [parts, List.mem_map] at hpart
      obtain ⟨stmt, hstmt, rfl⟩ := hpart
      have hlt := List.sizeOf_lt_of_mem hstmt
      rw [Node.stmt.sizeOf_spec, block.sizeOf_spec]
      omega
  | rebind | eval =>
      simp only [parts, List.mem_singleton] at hpart
      subst hpart
      simp only [Node.expr.sizeOf_spec, rebind.sizeOf_spec, eval.sizeOf_spec]
      omega
  | assign | ifThen | ifElse | loop | forEach =>
      simp only [parts, List.mem_cons, List.not_mem_nil, or_false] at hpart
      simp only [assign.sizeOf_spec, ifThen.sizeOf_spec, ifElse.sizeOf_spec, loop.sizeOf_spec,
        forEach.sizeOf_spec]
      rcases hpart with rfl | rfl | rfl <;>
        simp only [Node.expr.sizeOf_spec, Node.stmt.sizeOf_spec, Block.sizeOf_toStmt] <;> omega

theorem Node.sizeOf_part_lt (node part : Node Label) (hpart : part ∈ node.parts) :
    sizeOf part < sizeOf node := by
  cases node with
  | stmt stmt => exact stmt.sizeOf_part_lt part hpart
  | expr expr =>
      rw [parts, List.mem_map] at hpart
      obtain ⟨part, hpart, rfl⟩ := hpart
      have hlt := expr.sizeOf_part_lt part hpart
      rw [Node.expr.sizeOf_spec, Node.expr.sizeOf_spec]
      omega

/-- What passes from the parts of a node to the node holds of every node. -/
theorem Node.induction {motive : Node Label → Prop}
    (step : ∀ node : Node Label, (∀ part ∈ node.parts, motive part) → motive node)
    (node : Node Label) : motive node :=
  step node fun part hpart =>
    have := node.sizeOf_part_lt part hpart
    Node.induction step part
termination_by sizeOf node

/-! ### Nodes and expressions -/

theorem Expr.preorderList_eq_flatMap (exprs : List (Expr Label)) :
    Expr.preorderList exprs = exprs.flatMap Expr.preorder := by
  induction exprs with
  | nil => rfl
  | cons expr rest ih => rw [preorderList, ih, List.flatMap_cons]

theorem Expr.preorderArgs_eq_flatMap (args : List (PassMode × Expr Label)) :
    Expr.preorderArgs args = (args.map Prod.snd).flatMap Expr.preorder := by
  induction args with
  | nil => rfl
  | cons argument rest ih => rw [preorderArgs, ih, List.map_cons, List.flatMap_cons]

theorem Expr.preorder_eq (expr : Expr Label) :
    expr.preorder = expr :: expr.parts.flatMap Expr.preorder := by
  cases expr <;>
    simp [preorder, parts, preorderList_eq_flatMap, preorderArgs_eq_flatMap]

theorem Expr.postorderList_eq_flatMap (exprs : List (Expr Label)) :
    Expr.postorderList exprs = exprs.flatMap Expr.postorder := by
  induction exprs with
  | nil => rfl
  | cons expr rest ih => rw [postorderList, ih, List.flatMap_cons]

theorem Expr.postorderArgs_eq_flatMap (args : List (PassMode × Expr Label)) :
    Expr.postorderArgs args = (args.map Prod.snd).flatMap Expr.postorder := by
  induction args with
  | nil => rfl
  | cons argument rest ih => rw [postorderArgs, ih, List.map_cons, List.flatMap_cons]

theorem Expr.postorder_eq (expr : Expr Label) :
    expr.postorder = expr.parts.flatMap Expr.postorder ++ [expr] := by
  cases expr <;>
    simp [postorder, parts, postorderList_eq_flatMap, postorderArgs_eq_flatMap]

theorem Stmt.nodesBlock_eq (block : Block Label (Stmt Label)) :
    Stmt.nodesBlock block = block.toStmt.nodes := by
  rw [nodesBlock, Block.toStmt, nodes]

theorem Stmt.nodesList_eq_flatMap (stmts : List (Stmt Label)) :
    Stmt.nodesList stmts = stmts.flatMap Stmt.nodes := by
  induction stmts with
  | nil => rfl
  | cons stmt rest ih => rw [nodesList, ih, List.flatMap_cons]

theorem Stmt.exprsBlock_eq (block : Block Label (Stmt Label)) :
    Stmt.exprsBlock block = block.toStmt.exprs := by
  rw [exprsBlock, Block.toStmt, exprs]

theorem Stmt.exprsList_eq_flatMap (stmts : List (Stmt Label)) :
    Stmt.exprsList stmts = stmts.flatMap Stmt.exprs := by
  induction stmts with
  | nil => rfl
  | cons stmt rest ih => rw [exprsList, ih, List.flatMap_cons]

theorem Stmt.postorderBlock_eq (block : Block Label (Stmt Label)) :
    Stmt.postorderBlock block = block.toStmt.postorder := by
  rw [postorderBlock, Block.toStmt, postorder]

theorem Stmt.postorderList_eq_flatMap (stmts : List (Stmt Label)) :
    Stmt.postorderList stmts = stmts.flatMap Stmt.postorder := by
  induction stmts with
  | nil => rfl
  | cons stmt rest ih => rw [postorderList, ih, List.flatMap_cons]

namespace Node

theorem nodes_eq (node : Node Label) : node.nodes = node :: node.parts.flatMap nodes := by
  cases node with
  | expr expr =>
      simp only [nodes, parts, Expr.nodes]
      rw [Expr.preorder_eq, List.map_cons, List.map_flatMap, List.flatMap_map]
      rfl
  | stmt stmt =>
      cases stmt with
      | declare label target init | ret label init =>
          cases init <;> simp [nodes, parts, Stmt.nodes, Stmt.parts]
      | _ =>
          simp [nodes, parts, Stmt.nodes, Stmt.parts, Stmt.nodesBlock_eq,
            Stmt.nodesList_eq_flatMap, List.flatMap_map]

theorem exprs_eq (node : Node Label) :
    node.exprs = node.parts.flatMap exprs ++ node.expr?.toList := by
  cases node with
  | expr expr =>
      simp only [exprs, parts, expr?]
      rw [Expr.postorder_eq, List.flatMap_map]
      rfl
  | stmt stmt =>
      cases stmt with
      | declare label target init | ret label init =>
          cases init <;> simp [exprs, parts, expr?, Stmt.exprs, Stmt.parts]
      | _ =>
          simp [exprs, parts, expr?, Stmt.exprs, Stmt.parts, Stmt.exprsBlock_eq,
            Stmt.exprsList_eq_flatMap, List.flatMap_map]

theorem stmts_eq (node : Node Label) :
    node.stmts = node.parts.flatMap stmts ++ node.stmt?.toList := by
  cases node with
  | expr expr =>
      have hparts : (expr.parts.map Node.expr).flatMap stmts = [] := by
        rw [List.flatMap_map]
        exact List.flatMap_eq_nil_iff.mpr fun _ _ => rfl
      rw [parts, hparts]
      rfl
  | stmt stmt =>
      cases stmt with
      | declare label target init | ret label init =>
          cases init <;> simp [stmts, parts, stmt?, Stmt.postorder, Stmt.parts]
      | _ =>
          simp [stmts, parts, stmt?, Stmt.postorder, Stmt.parts, Stmt.postorderBlock_eq,
            Stmt.postorderList_eq_flatMap, List.flatMap_map]

/-- A list of the nodes of one kind, each after its parts, holds each of them as often as a walk
meets it. -/
theorem collect_perm {α : Type} {select : Node Label → Option α} {collect : Node Label → List α}
    (hcollect : ∀ node, collect node = node.parts.flatMap collect ++ (select node).toList)
    (node : Node Label) : (node.nodes.filterMap select).Perm (collect node) := by
  induction node using Node.induction with
  | step node ih =>
      have hparts : ((node.parts.flatMap nodes).filterMap select).Perm
          (node.parts.flatMap collect) := by
        rw [List.filterMap_flatMap]
        exact List.Perm.flatMap_left _ ih
      have hnodes : node.nodes.filterMap select =
          (select node).toList ++ (node.parts.flatMap nodes).filterMap select := by
        rw [nodes_eq, List.filterMap_cons]
        cases select node <;> rfl
      rw [hnodes, hcollect node]
      exact (hparts.append_left _).trans List.perm_append_comm

theorem mem_nodes_self (node : Node Label) : node ∈ node.nodes := by
  rw [nodes_eq]
  exact List.mem_cons_self

theorem mem_nodes_of_part {node inner part : Node Label} (hinner : inner ∈ node.nodes)
    (hpart : part ∈ inner.parts) : part ∈ node.nodes := by
  induction node using Node.induction with
  | step node ih =>
      rw [nodes_eq, List.mem_cons, List.mem_flatMap] at hinner ⊢
      rcases hinner with rfl | ⟨below, hbelow, hinner⟩
      · exact Or.inr ⟨part, hpart, part.mem_nodes_self⟩
      · exact Or.inr ⟨below, hbelow, ih below hbelow hinner⟩

/-- The numbered expressions of a node are those that a walk over it meets. -/
theorem mem_exprs_iff (node : Node Label) (expr : Expr Label) :
    expr ∈ node.exprs ↔ Node.expr expr ∈ node.nodes := by
  induction node using Node.induction with
  | step node ih =>
      have hself : expr ∈ node.expr?.toList ↔ Node.expr expr = node := by
        cases node <;> simp [expr?]
      rw [exprs_eq, nodes_eq, List.mem_append, List.mem_cons, List.mem_flatMap, List.mem_flatMap,
        hself, or_comm]
      exact or_congr_right
        (exists_congr fun part => and_congr_right fun hpart => ih part hpart)

theorem mem_row_exprs_iff (row : List (Node Label)) (expr : Expr Label) :
    expr ∈ row.flatMap exprs ↔ Node.expr expr ∈ row.flatMap nodes := by
  rw [List.mem_flatMap, List.mem_flatMap]
  exact exists_congr fun node => and_congr_right fun _ => node.mem_exprs_iff expr

end Node

theorem Body.mem_exprs_iff (body : Body Label) (expr : Expr Label) :
    expr ∈ body.exprs ↔ Node.expr expr ∈ body.nodes := by
  rw [Body.exprs, Body.nodes, Stmt.exprsBlock_eq, Stmt.nodesBlock_eq]
  exact Node.mem_exprs_iff (.stmt body.root.toStmt) expr

theorem Body.mem_nodes_of_part {body : Body Label} {node part : Node Label}
    (hnode : node ∈ body.nodes) (hpart : part ∈ node.parts) : part ∈ body.nodes := by
  rw [Body.nodes, Stmt.nodesBlock_eq] at hnode ⊢
  change node ∈ (Node.stmt body.root.toStmt).nodes at hnode
  exact Node.mem_nodes_of_part hnode hpart

end RefStability
