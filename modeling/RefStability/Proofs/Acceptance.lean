import RefStability.Proofs.Scoping

/-!
# The documents that lowering accepts

Lowering takes two positions for every node and one for every declaration, so that the positions it
needs can be counted on the document. A document that needs no more than there are is lowered if and
only if it is well scoped.
-/

namespace RefStability

variable {Label : Type}

/-! ### Positions of placed trees -/

theorem Laid.position_eq {cursor next : Cursor} {row : List (Node Site)}
    (hlaid : Laid cursor row next) :
    next.position = cursor.position + 2 * (row.flatMap Node.nodes).length := by
  induction hlaid with
  | nil => rfl
  | cons hparts hlabel hrest ihparts ihrest =>
      rw [Cursor.tick_position] at ihparts
      rw [Cursor.close_position] at ihrest
      rw [List.flatMap_cons, Node.nodes_eq, List.length_append, List.length_cons]
      omega

mutual

theorem Expr.length_preorder_place : (expr : Expr Label) → (cursor : Cursor) →
    (expr.place cursor).1.preorder.length = expr.preorder.length
  | .literal _, _ => rfl
  | .localVar _ _, _ => rfl
  | .param _ _, _ => rfl
  | .staticField _ _ _, _ => rfl
  | .field _ receiver _ _, cursor => by
      simp [place, preorder, receiver.length_preorder_place]
  | .index _ receiver operands _, cursor => by
      simp [place, preorder, receiver.length_preorder_place,
        Expr.length_preorder_placeList operands]
  | .slice _ receiver operands _, cursor => by
      simp [place, preorder, receiver.length_preorder_place,
        Expr.length_preorder_placeList operands]
  | .scopeValue _ scope _, cursor => by simp [place, preorder, scope.length_preorder_place]
  | .call _ _ args _, cursor => by simp [place, preorder, Expr.length_preorder_placeArgs args]
  | .computed _ operands _, cursor => by
      simp [place, preorder, Expr.length_preorder_placeList operands]

theorem Expr.length_preorder_placeList : (exprs : List (Expr Label)) → (cursor : Cursor) →
    (Expr.preorderList (Expr.placeList exprs cursor).1).length = (Expr.preorderList exprs).length
  | [], _ => rfl
  | expr :: rest, cursor => by
      simp [placeList, preorderList, expr.length_preorder_place,
        Expr.length_preorder_placeList rest]

theorem Expr.length_preorder_placeArgs : (args : List (PassMode × Expr Label)) → (cursor : Cursor) →
    (Expr.preorderArgs (Expr.placeArgs args cursor).1).length = (Expr.preorderArgs args).length
  | [], _ => rfl
  | (_, expr) :: rest, cursor => by
      simp [placeArgs, preorderArgs, expr.length_preorder_place,
        Expr.length_preorder_placeArgs rest]

end

mutual

theorem Stmt.length_nodes_place : (stmt : Stmt Label) → (cursor : Cursor) →
    (stmt.place cursor).1.nodes.length = stmt.nodes.length
  | .declare _ _ none, _ => rfl
  | .declare _ _ (some init), _ => by
      simp [place, Expr.placeOptional, nodes, Expr.nodes, init.length_preorder_place]
  | .rebind _ _ value, _ => by simp [place, nodes, Expr.nodes, value.length_preorder_place]
  | .assign _ target value, _ => by
      simp [place, nodes, Expr.nodes, target.length_preorder_place, value.length_preorder_place]
  | .eval _ value, _ => by simp [place, nodes, Expr.nodes, value.length_preorder_place]
  | .ret _ none, _ => rfl
  | .ret _ (some value), _ => by
      simp [place, Expr.placeOptional, nodes, Expr.nodes, value.length_preorder_place]
  | .block _ stmts, _ => by simp [place, nodes, Stmt.length_nodes_placeList stmts]
  | .ifThen _ condition thenBody, _ => by
      simp [place, nodes, Expr.nodes, condition.length_preorder_place,
        Stmt.length_nodes_placeBlock thenBody]
  | .ifElse _ condition thenBody elseBody, _ => by
      simp [place, nodes, Expr.nodes, condition.length_preorder_place,
        Stmt.length_nodes_placeBlock thenBody, Stmt.length_nodes_placeBlock elseBody]
  | .loop _ condition body, _ => by
      simp [place, nodes, Expr.nodes, condition.length_preorder_place,
        Stmt.length_nodes_placeBlock body]
  | .forEach _ _ collection body, _ => by
      simp [place, nodes, Expr.nodes, collection.length_preorder_place,
        Stmt.length_nodes_placeBlock body]

theorem Stmt.length_nodes_placeBlock : (block : Block Label (Stmt Label)) → (cursor : Cursor) →
    (Stmt.nodesBlock (Stmt.placeBlock block cursor).1).length = (Stmt.nodesBlock block).length
  | ⟨_, stmts⟩, _ => by
      simp [placeBlock, nodesBlock, Stmt.length_nodes_placeList stmts]

theorem Stmt.length_nodes_placeList : (stmts : List (Stmt Label)) → (cursor : Cursor) →
    (Stmt.nodesList (Stmt.placeList stmts cursor).1).length = (Stmt.nodesList stmts).length
  | [], _ => rfl
  | stmt :: rest, cursor => by
      simp [placeList, nodesList, stmt.length_nodes_place, Stmt.length_nodes_placeList rest]

end

def Body.positions (body : Body Label) : Nat :=
  2 + body.params.length + body.locals.length + 2 * body.nodes.length

def Method.positions (method : Method Label) : Nat :=
  (method.body.map Body.positions).getD 0

theorem Body.position_place (body : Body Label) (start : Nat) :
    (body.place start).2 = start + body.positions := by
  have hposition := (Stmt.placeBlock_laid body.root
    ⟨start + 1 + body.params.length + body.locals.length, 0, 1⟩).position_eq
  rw [List.flatMap_singleton, Node.nodes, ← Stmt.nodesBlock_eq, Stmt.length_nodes_placeBlock]
    at hposition
  simp only [Body.place, Body.positions, Body.nodes] at hposition ⊢
  omega

theorem Method.position_place (method : Method Label) (start : Nat) :
    (method.place start).2 = start + method.positions := by
  unfold Method.place Method.positions
  cases method.body with
  | none => rfl
  | some body => exact body.position_place start

theorem placeMethods_position (methods : List (Method Label)) (start : Nat) :
    (placeMethods methods start).2 = (methods.map Method.positions).foldl (· + ·) start := by
  induction methods generalizing start with
  | nil => rfl
  | cons method rest ih =>
      change (placeMethods rest (method.place start).2).2 = _
      rw [ih, method.position_place, List.map_cons, List.foldl_cons]

/-! ### Positions of documents -/

namespace Scope
variable {scope : Scope}

mutual

theorem length_preorder_of_resolveExpr : (expr : Document.Expr) → {resolved : Expr Unit} →
    scope.resolveExpr expr = .ok resolved → resolved.preorder.length = expr.preorder.length
  | .literal, resolved, hresolve => by
      cases hresolve
      rfl
  | .ident name, resolved, hresolve => by
      obtain ⟨found, _, hresult⟩ := bind_eq_ok_iff.mp hresolve
      cases found <;> cases hresult <;> rfl
  | .staticField name ty, resolved, hresolve => by
      obtain ⟨id, _, hresult⟩ := bind_eq_ok_iff.mp hresolve
      cases hresult
      rfl
  | .field receiver name ty, resolved, hresolve => by
      simp only [resolveExpr, bind_eq_ok_iff, pure_eq_ok_iff] at hresolve
      obtain ⟨inner, hinner, id, _, rfl⟩ := hresolve
      simp [Expr.preorder, Document.Expr.preorder, length_preorder_of_resolveExpr receiver hinner]
  | .index receiver operands ty, resolved, hresolve => by
      simp only [resolveExpr, bind_eq_ok_iff, pure_eq_ok_iff] at hresolve
      obtain ⟨inner, hinner, items, hitems, id, _, rfl⟩ := hresolve
      simp [Expr.preorder, Document.Expr.preorder, length_preorder_of_resolveExpr receiver hinner,
        length_preorder_of_resolveExprs operands hitems]
  | .slice receiver operands ty, resolved, hresolve => by
      simp only [resolveExpr, bind_eq_ok_iff, pure_eq_ok_iff] at hresolve
      obtain ⟨inner, hinner, items, hitems, id, _, rfl⟩ := hresolve
      simp [Expr.preorder, Document.Expr.preorder, length_preorder_of_resolveExpr receiver hinner,
        length_preorder_of_resolveExprs operands hitems]
  | .scopeValue inner ty, resolved, hresolve => by
      simp only [resolveExpr, bind_eq_ok_iff, pure_eq_ok_iff] at hresolve
      obtain ⟨value, hvalue, id, _, rfl⟩ := hresolve
      simp [Expr.preorder, Document.Expr.preorder, length_preorder_of_resolveExpr inner hvalue]
  | .call method args ty, resolved, hresolve => by
      simp only [resolveExpr, bind_eq_ok_iff, pure_eq_ok_iff] at hresolve
      obtain ⟨target, _, items, hitems, id, _, rfl⟩ := hresolve
      simp [Expr.preorder, Document.Expr.preorder, length_preorder_of_resolveArguments args hitems]
  | .computed operands ty, resolved, hresolve => by
      simp only [resolveExpr, bind_eq_ok_iff, pure_eq_ok_iff] at hresolve
      obtain ⟨items, hitems, id, _, rfl⟩ := hresolve
      simp [Expr.preorder, Document.Expr.preorder, length_preorder_of_resolveExprs operands hitems]

theorem length_preorder_of_resolveExprs : (exprs : List Document.Expr) →
    {resolved : List (Expr Unit)} → scope.resolveExprs exprs = .ok resolved →
      (Expr.preorderList resolved).length = (Document.Expr.preorderList exprs).length
  | [], resolved, hresolve => by
      cases hresolve
      rfl
  | expr :: rest, resolved, hresolve => by
      simp only [resolveExprs, bind_eq_ok_iff, pure_eq_ok_iff] at hresolve
      obtain ⟨first, hfirst, others, hothers, rfl⟩ := hresolve
      simp [Expr.preorderList, Document.Expr.preorderList,
        length_preorder_of_resolveExpr expr hfirst, length_preorder_of_resolveExprs rest hothers]

theorem length_preorder_of_resolveArguments : (args : List (PassMode × Document.Expr)) →
    {resolved : List (PassMode × Expr Unit)} → scope.resolveArguments args = .ok resolved →
      (Expr.preorderArgs resolved).length = (Document.Expr.preorderArgs args).length
  | [], resolved, hresolve => by
      cases hresolve
      rfl
  | (mode, expr) :: rest, resolved, hresolve => by
      simp only [resolveArguments, bind_eq_ok_iff, pure_eq_ok_iff] at hresolve
      obtain ⟨first, hfirst, argument, hargument, others, hothers, rfl⟩ := hresolve
      cases eq_of_checkArgument hargument
      simp [Expr.preorderArgs, Document.Expr.preorderArgs,
        length_preorder_of_resolveExpr expr hfirst,
        length_preorder_of_resolveArguments rest hothers]

end

theorem length_nodes_of_resolveExpr (expr : Document.Expr) {resolved : Expr Unit}
    (hresolve : scope.resolveExpr expr = .ok resolved) :
    resolved.nodes.length = expr.nodes.length := by
  rw [Expr.nodes, Document.Expr.nodes, List.length_map, List.length_map]
  exact length_preorder_of_resolveExpr expr hresolve

mutual

theorem length_nodes_of_resolveStmt : (stmt : Document.Stmt) → {resolved : Stmt Unit} →
    scope.resolveStmt stmt = .ok resolved → resolved.nodes.length = stmt.nodes.length
  | .declare target none, resolved, hresolve => by
      obtain ⟨item, _, hresult⟩ := bind_eq_ok_iff.mp hresolve
      cases hresult
      rfl
  | .declare target (some init), resolved, hresolve => by
      simp only [resolveStmt, resolveOptional, bind_eq_ok_iff, pure_eq_ok_iff] at hresolve
      obtain ⟨item, _, value, ⟨inner, hinner, rfl⟩, rfl⟩ := hresolve
      simp [Stmt.nodes, Document.Stmt.nodes, length_nodes_of_resolveExpr init hinner]
  | .rebind target value, resolved, hresolve => by
      simp only [resolveStmt, bind_eq_ok_iff, pure_eq_ok_iff] at hresolve
      obtain ⟨item, _, inner, hinner, rfl⟩ := hresolve
      simp [Stmt.nodes, Document.Stmt.nodes, length_nodes_of_resolveExpr value hinner]
  | .assign target value, resolved, hresolve => by
      simp only [resolveStmt, bind_eq_ok_iff, pure_eq_ok_iff] at hresolve
      obtain ⟨left, hleft, right, hright, rfl⟩ := hresolve
      simp [Stmt.nodes, Document.Stmt.nodes, length_nodes_of_resolveExpr target hleft,
        length_nodes_of_resolveExpr value hright]
  | .eval value, resolved, hresolve => by
      simp only [resolveStmt, bind_eq_ok_iff, pure_eq_ok_iff] at hresolve
      obtain ⟨inner, hinner, rfl⟩ := hresolve
      simp [Stmt.nodes, Document.Stmt.nodes, length_nodes_of_resolveExpr value hinner]
  | .ret none, resolved, hresolve => by
      cases hresolve
      rfl
  | .ret (some value), resolved, hresolve => by
      simp only [resolveStmt, resolveOptional, bind_eq_ok_iff, pure_eq_ok_iff] at hresolve
      obtain ⟨found, ⟨inner, hinner, rfl⟩, rfl⟩ := hresolve
      simp [Stmt.nodes, Document.Stmt.nodes, length_nodes_of_resolveExpr value hinner]
  | .block body, resolved, hresolve => by
      simp only [resolveStmt, bind_eq_ok_iff, pure_eq_ok_iff] at hresolve
      obtain ⟨stmts, hstmts, rfl⟩ := hresolve
      simp [Stmt.nodes, Document.Stmt.nodes, length_nodes_of_resolveStmts body hstmts]
  | .ifThen condition thenBody, resolved, hresolve => by
      simp only [resolveStmt, bind_eq_ok_iff, pure_eq_ok_iff] at hresolve
      obtain ⟨test, htest, stmts, hstmts, rfl⟩ := hresolve
      simp [Stmt.nodes, Stmt.nodesBlock, Document.Stmt.nodes,
        length_nodes_of_resolveExpr condition htest, length_nodes_of_resolveStmts thenBody hstmts]
  | .ifElse condition thenBody elseBody, resolved, hresolve => by
      simp only [resolveStmt, bind_eq_ok_iff, pure_eq_ok_iff] at hresolve
      obtain ⟨test, htest, stmts, hstmts, others, hothers, rfl⟩ := hresolve
      simp [Stmt.nodes, Stmt.nodesBlock, Document.Stmt.nodes,
        length_nodes_of_resolveExpr condition htest, length_nodes_of_resolveStmts thenBody hstmts,
        length_nodes_of_resolveStmts elseBody hothers]
  | .loop condition body, resolved, hresolve => by
      simp only [resolveStmt, bind_eq_ok_iff, pure_eq_ok_iff] at hresolve
      obtain ⟨test, htest, stmts, hstmts, rfl⟩ := hresolve
      simp [Stmt.nodes, Stmt.nodesBlock, Document.Stmt.nodes,
        length_nodes_of_resolveExpr condition htest, length_nodes_of_resolveStmts body hstmts]
  | .forEach item collection body, resolved, hresolve => by
      simp only [resolveStmt, bind_eq_ok_iff, pure_eq_ok_iff] at hresolve
      obtain ⟨target, _, source, hsource, stmts, hstmts, rfl⟩ := hresolve
      simp [Stmt.nodes, Stmt.nodesBlock, Document.Stmt.nodes,
        length_nodes_of_resolveExpr collection hsource, length_nodes_of_resolveStmts body hstmts]

theorem length_nodes_of_resolveStmts : (stmts : List Document.Stmt) →
    {resolved : List (Stmt Unit)} → scope.resolveStmts stmts = .ok resolved →
      (Stmt.nodesList resolved).length = (Document.Stmt.nodesList stmts).length
  | [], resolved, hresolve => by
      cases hresolve
      rfl
  | stmt :: rest, resolved, hresolve => by
      simp only [resolveStmts, bind_eq_ok_iff, pure_eq_ok_iff] at hresolve
      obtain ⟨first, hfirst, others, hothers, rfl⟩ := hresolve
      simp [Stmt.nodesList, Document.Stmt.nodesList, length_nodes_of_resolveStmt stmt hfirst,
        length_nodes_of_resolveStmts rest hothers]

end
end Scope

namespace Document

/-- A body takes a position where it starts and one where it ends, one for each declaration, and two
for each node. -/
def Method.positions (method : Method) : Nat :=
  match method.body with
  | none => 0
  | some body =>
    2 + method.params.length + method.locals.length + 2 * (Stmt.block body).nodes.length

def Program.positions (document : Program) : Nat :=
  (document.methods.map Method.positions).foldl (· + ·) 0

theorem Method.positions_of_resolveBody {document : Program} {id : MethodId} {method : Method}
    {body : List Stmt} {resolved : Body Unit}
    (hresolve : method.resolveBody document id body = .ok resolved) :
    resolved.positions = 2 + method.params.length + method.locals.length +
      2 * (Stmt.block body).nodes.length := by
  simp only [Method.resolveBody, bind_eq_ok_iff, pure_eq_ok_iff] at hresolve
  obtain ⟨params, hparams, locals, hlocals, stmts, hstmts, rfl⟩ := hresolve
  have hparamsLength : params.length = method.params.length := by
    simpa using congrArg List.length (map_name_of_resolveParams hparams)
  have hlocalsLength : locals.length = method.locals.length := by
    simpa using congrArg List.length (map_name_of_resolveLocals hlocals)
  simp [Body.positions, Body.nodes, Stmt.nodes, Stmt.nodesBlock, hparamsLength, hlocalsLength,
    Scope.length_nodes_of_resolveStmts body hstmts]

theorem Method.positions_of_resolve {document : Program} {id : MethodId} {method : Method}
    {resolved : RefStability.Method Unit} (hresolve : method.resolve document id = .ok resolved) :
    resolved.positions = method.positions := by
  obtain ⟨hnone, rfl⟩ | ⟨stmts, body, hsome, hbody, rfl⟩ := Method.resolve_eq_ok_iff.mp hresolve
  · rw [Method.positions, hnone]
    rfl
  · rw [Method.positions, hsome]
    exact Method.positions_of_resolveBody hbody

theorem positions_of_resolveMethods {document : Program} {id : MethodId} {methods : List Method}
    {resolved : List (RefStability.Method Unit)}
    (hresolve : resolveMethods document id methods = .ok resolved) :
    resolved.map RefStability.Method.positions = methods.map Method.positions := by
  induction methods generalizing id resolved with
  | nil =>
      cases hresolve
      rfl
  | cons method rest ih =>
      simp only [resolveMethods, bind_eq_ok_iff, pure_eq_ok_iff] at hresolve
      obtain ⟨first, hfirst, others, hothers, rfl⟩ := hresolve
      rw [List.map_cons, List.map_cons, Method.positions_of_resolve hfirst, ih hothers]

/-- Lowering takes exactly the positions that are counted on the document. -/
theorem Program.position_of_resolve {document : Program} {program : RefStability.Program Unit}
    (hresolve : document.resolve = .ok program) : program.place.2 = document.positions := by
  obtain ⟨_, _, methods, hmethods, rfl⟩ := Program.resolve_eq_ok_iff.mp hresolve
  change (placeMethods methods 0).2 = _
  rw [placeMethods_position, positions_of_resolveMethods hmethods, Program.positions]

end Document

/-- A document that needs no more positions than there are is lowered if and only if it is well
scoped. -/
theorem lower_accepts_iff_wellScoped (document : Document.Program)
    (hpositions : document.positions ≤ maxPosition) :
    (∃ program, document.lower = .ok program) ↔ document.WellScoped := by
  rw [← document.exists_resolve_iff]
  constructor
  · rintro ⟨program, hlower⟩
    obtain ⟨resolved, hresolve, _⟩ := Document.Program.lower_eq_ok_iff.mp hlower
    exact ⟨resolved, hresolve⟩
  · rintro ⟨resolved, hresolve⟩
    have hlast : resolved.place.2 ≤ maxPosition := by
      rw [Document.Program.position_of_resolve hresolve]
      exact hpositions
    exact ⟨resolved.place.1, Document.Program.lower_eq_ok_iff.mpr ⟨resolved, hresolve, rfl, hlast⟩⟩

theorem lower_accepts_iff_wellScoped_branch :
    branchDocument.positions ≤ maxPosition ∧ (∃ program, branchDocument.lower = .ok program) ∧
      branchDocument.WellScoped := by
  have hpositions : branchDocument.positions ≤ maxPosition := by decide +kernel
  have hany : branchDocument.anyBody (fun _ _ => true) = true := by decide +kernel
  obtain ⟨program, _, hlower, _⟩ := Document.Program.exists_of_anyBody hany
  exact ⟨hpositions, ⟨program, hlower⟩,
    (lower_accepts_iff_wellScoped branchDocument hpositions).mp ⟨program, hlower⟩⟩

end RefStability
