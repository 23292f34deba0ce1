import RefStability.Proofs.Scoping

/-!
# What a body sees of its document

A body refers to types by their names and to methods by their signatures or their names. Two
documents in which these are the same resolve a method in the same way, however much their types and
their other methods differ.
-/

namespace RefStability

/-- The same signatures and names, method by method. -/
structure Document.CalledAlike (methods others : List Document.Method) : Prop where
  signatures : others.map (·.effectiveSignature) = methods.map (·.effectiveSignature)
  names : others.map (·.name) = methods.map (·.name)

namespace Scope

open Document (CalledAlike)

/-- The same scope with other methods in it. -/
def withMethods (scope : Scope) (methods : List Document.Method) : Scope := { scope with methods }

variable {scope : Scope} {others : List Document.Method}

/-- The numbers of the methods with a name, read off the list of names. -/
theorem ids_named (methods : List Document.Method) (text : String) :
    (methods.zipIdx.filter fun (method, _) => method.name == text).map Prod.snd =
      ((methods.map (·.name)).zipIdx.filter fun (name, _) => name == text).map Prod.snd := by
  rw [List.zipIdx_map, List.filter_map, List.map_map]
  rfl

theorem methodId_withMethods (halike : CalledAlike scope.methods others) (text : String) :
    (scope.withMethods others).methodId text = scope.methodId text := by
  have hindex : (others.findIdx? fun method => method.effectiveSignature == text) =
      scope.methods.findIdx? fun method => method.effectiveSignature == text := by
    have hmap := congrArg (List.findIdx? (· == text)) halike.signatures
    rwa [List.findIdx?_map, List.findIdx?_map] at hmap
  have hids : (others.zipIdx.filter fun (method, _) => method.name == text).map Prod.snd =
      (scope.methods.zipIdx.filter fun (method, _) => method.name == text).map Prod.snd := by
    rw [ids_named, ids_named, halike.names]
  unfold methodId withMethods
  rw [hindex]
  cases scope.methods.findIdx? fun method => method.effectiveSignature == text with
  | some id => rfl
  | none =>
      -- Only the number of the one method that is found is kept.
      generalize (others.zipIdx.filter fun (method, _) => method.name == text) = left at hids ⊢
      generalize (scope.methods.zipIdx.filter fun (method, _) => method.name == text) = right
        at hids ⊢
      rcases left with _ | ⟨first, _ | ⟨second, rest⟩⟩ <;>
        rcases right with _ | ⟨first', _ | ⟨second', rest'⟩⟩ <;> simp_all

mutual

theorem resolveExpr_withMethods (halike : CalledAlike scope.methods others) :
    (expr : Document.Expr) →
    (scope.withMethods others).resolveExpr expr = scope.resolveExpr expr
  | .literal => rfl
  | .ident name => by
      rw [resolveExpr, resolveExpr]
      rfl
  | .staticField name ty => by
      rw [resolveExpr, resolveExpr]
      rfl
  | .field receiver name ty => by
      rw [resolveExpr, resolveExpr, resolveExpr_withMethods halike receiver]
      rfl
  | .index receiver operands ty => by
      rw [resolveExpr, resolveExpr, resolveExpr_withMethods halike receiver,
        resolveExprs_withMethods halike operands]
      rfl
  | .slice receiver operands ty => by
      rw [resolveExpr, resolveExpr, resolveExpr_withMethods halike receiver,
        resolveExprs_withMethods halike operands]
      rfl
  | .scopeValue inner ty => by
      rw [resolveExpr, resolveExpr, resolveExpr_withMethods halike inner]
      rfl
  | .call method args ty => by
      rw [resolveExpr, resolveExpr, methodId_withMethods halike,
        resolveArguments_withMethods halike args]
      rfl
  | .computed operands ty => by
      rw [resolveExpr, resolveExpr, resolveExprs_withMethods halike operands]
      rfl

theorem resolveExprs_withMethods (halike : CalledAlike scope.methods others) :
    (exprs : List Document.Expr) →
    (scope.withMethods others).resolveExprs exprs = scope.resolveExprs exprs
  | [] => rfl
  | expr :: rest => by
      rw [resolveExprs, resolveExprs, resolveExpr_withMethods halike expr,
        resolveExprs_withMethods halike rest]

theorem resolveArguments_withMethods (halike : CalledAlike scope.methods others) :
    (args : List (PassMode × Document.Expr)) →
    (scope.withMethods others).resolveArguments args = scope.resolveArguments args
  | [] => rfl
  | (mode, expr) :: rest => by
      rw [resolveArguments, resolveArguments, resolveExpr_withMethods halike expr,
        resolveArguments_withMethods halike rest]
      rfl

end

theorem resolveOptional_withMethods (halike : CalledAlike scope.methods others)
    (expr : Option Document.Expr) :
    (scope.withMethods others).resolveOptional expr = scope.resolveOptional expr := by
  cases expr with
  | none => rfl
  | some expr => rw [resolveOptional, resolveOptional, resolveExpr_withMethods halike]

mutual

theorem resolveStmt_withMethods (halike : CalledAlike scope.methods others) :
    (stmt : Document.Stmt) →
    (scope.withMethods others).resolveStmt stmt = scope.resolveStmt stmt
  | .declare target init => by
      rw [resolveStmt, resolveStmt, resolveOptional_withMethods halike]
      rfl
  | .rebind target value => by
      rw [resolveStmt, resolveStmt, resolveExpr_withMethods halike]
      rfl
  | .assign target value => by
      rw [resolveStmt, resolveStmt, resolveExpr_withMethods halike,
        resolveExpr_withMethods halike]
  | .eval value => by
      rw [resolveStmt, resolveStmt, resolveExpr_withMethods halike]
  | .ret value => by
      rw [resolveStmt, resolveStmt, resolveOptional_withMethods halike]
  | .block body => by
      rw [resolveStmt, resolveStmt, resolveStmts_withMethods halike body]
  | .ifThen condition thenBody => by
      rw [resolveStmt, resolveStmt, resolveExpr_withMethods halike,
        resolveStmts_withMethods halike thenBody]
  | .ifElse condition thenBody elseBody => by
      rw [resolveStmt, resolveStmt, resolveExpr_withMethods halike,
        resolveStmts_withMethods halike thenBody, resolveStmts_withMethods halike elseBody]
  | .loop condition body => by
      rw [resolveStmt, resolveStmt, resolveExpr_withMethods halike,
        resolveStmts_withMethods halike body]
  | .forEach item collection body => by
      rw [resolveStmt, resolveStmt, resolveExpr_withMethods halike,
        resolveStmts_withMethods halike body]
      rfl

theorem resolveStmts_withMethods (halike : CalledAlike scope.methods others) :
    (stmts : List Document.Stmt) →
    (scope.withMethods others).resolveStmts stmts = scope.resolveStmts stmts
  | [] => rfl
  | stmt :: rest => by
      rw [resolveStmts, resolveStmts, resolveStmt_withMethods halike stmt,
        resolveStmts_withMethods halike rest]

end

end Scope

namespace Document

/-- The same to all bodies: the same names of types, and the same signatures and names of
methods. -/
structure Program.LooksLike (document other : Program) : Prop where
  file : other.file = document.file
  types : other.types.map (·.name) = document.types.map (·.name)
  methods : CalledAlike document.methods other.methods

variable {document other : Program}

theorem Method.resolveBody_of_looksLike (hlooks : document.LooksLike other) (id : MethodId)
    (method : Method) (body : List Stmt) :
    method.resolveBody other id body = method.resolveBody document id body := by
  have hstmts : ((method.scope document).withMethods other.methods).resolveStmts body =
      (method.scope document).resolveStmts body :=
    Scope.resolveStmts_withMethods hlooks.methods body
  unfold Method.resolveBody
  simp only [hlooks.types, hlooks.file]
  unfold Method.scope Scope.withMethods at hstmts
  simp only [hstmts]

theorem Method.resolve_of_looksLike (hlooks : document.LooksLike other) (id : MethodId)
    (method : Method) : method.resolve other id = method.resolve document id := by
  unfold Method.resolve
  simp only [Method.resolveBody_of_looksLike hlooks]

theorem resolveMethods_of_looksLike (hlooks : document.LooksLike other) (id : MethodId)
    (methods : List Method) :
    resolveMethods other id methods = resolveMethods document id methods := by
  induction methods generalizing id with
  | nil => rfl
  | cons method rest ih =>
      rw [resolveMethods, resolveMethods, Method.resolve_of_looksLike hlooks, ih]

end Document

end RefStability
