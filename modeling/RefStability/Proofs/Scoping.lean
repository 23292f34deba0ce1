import RefStability.Proofs.SourceOrder

/-!
# Documents whose names resolve

Resolving a document stops at the first name that stands for nothing. What a scope asks of a node
does not depend on the parts of the node, so a body resolves if and only if each of its nodes is
admitted, and a document does if and only if its bodies do and what it declares has distinct names.
-/

namespace RefStability

/-! ### Steps that can fail -/

theorem pure_eq_ok_iff {ε α : Type} {value result : α} :
    (pure value : Except ε α) = .ok result ↔ value = result := by
  simp [pure, Except.pure]

theorem bind_eq_ok_iff {ε α β : Type} {first : Except ε α} {next : α → Except ε β} {result : β} :
    (first >>= next) = .ok result ↔ ∃ value, first = .ok value ∧ next value = .ok result := by
  cases first with
  | error cause => simp [bind, Except.bind]
  | ok value => simp [bind, Except.bind]

/-- Each of two steps succeeds or fails on its own, so both succeed if and only if each does. -/
theorem exists_bind_eq_ok_iff {ε α β : Type} {first : Except ε α} {next : α → Except ε β}
    {condition : Prop} (hnext : ∀ value, first = .ok value →
      ((∃ result, next value = .ok result) ↔ condition)) :
    (∃ result, (first >>= next) = .ok result) ↔ (∃ value, first = .ok value) ∧ condition := by
  simp only [bind_eq_ok_iff]
  constructor
  · rintro ⟨result, value, hfirst, hresult⟩
    exact ⟨⟨value, hfirst⟩, (hnext value hfirst).mp ⟨result, hresult⟩⟩
  · rintro ⟨⟨value, hfirst⟩, hcondition⟩
    obtain ⟨result, hresult⟩ := (hnext value hfirst).mpr hcondition
    exact ⟨result, value, hfirst, hresult⟩

theorem exists_bind_pure_eq_ok_iff {ε α β : Type} {first : Except ε α} {build : α → β} :
    (∃ result, (first >>= fun value => pure (build value)) = .ok result) ↔
      ∃ value, first = .ok value := by
  cases first with
  | error cause => simp [bind, Except.bind]
  | ok value => simp [bind, Except.bind, pure, Except.pure]

/-! ### The nodes of a document -/

namespace Document

inductive Node where
  | stmt (stmt : Stmt)
  | expr (expr : Expr)

mutual

/-- An expression and its parts, each before its own parts. -/
def Expr.preorder : Expr → List Expr
  | .literal => [.literal]
  | .ident name => [.ident name]
  | .staticField name ty => [.staticField name ty]
  | .field receiver name ty => .field receiver name ty :: receiver.preorder
  | .index receiver operands ty =>
    .index receiver operands ty :: (receiver.preorder ++ Expr.preorderList operands)
  | .slice receiver operands ty =>
    .slice receiver operands ty :: (receiver.preorder ++ Expr.preorderList operands)
  | .scopeValue scope ty => .scopeValue scope ty :: scope.preorder
  | .call method args ty => .call method args ty :: Expr.preorderArgs args
  | .computed operands ty => .computed operands ty :: Expr.preorderList operands

def Expr.preorderList : List Expr → List Expr
  | [] => []
  | expr :: rest => expr.preorder ++ Expr.preorderList rest

def Expr.preorderArgs : List (PassMode × Expr) → List Expr
  | [] => []
  | (_, expr) :: rest => expr.preorder ++ Expr.preorderArgs rest

end

def Expr.nodes (expr : Expr) : List Node := expr.preorder.map .expr

mutual

/-- A statement and all its parts. What belongs to a branch or a loop is a block of its own. -/
def Stmt.nodes : Stmt → List Node
  | .declare target none => [.stmt (.declare target none)]
  | .declare target (some init) => .stmt (.declare target (some init)) :: init.nodes
  | .rebind target value => .stmt (.rebind target value) :: value.nodes
  | .assign target value => .stmt (.assign target value) :: (target.nodes ++ value.nodes)
  | .eval value => .stmt (.eval value) :: value.nodes
  | .ret none => [.stmt (.ret none)]
  | .ret (some value) => .stmt (.ret (some value)) :: value.nodes
  | .block body => .stmt (.block body) :: Stmt.nodesList body
  | .ifThen condition thenBody =>
    .stmt (.ifThen condition thenBody) ::
      (condition.nodes ++ .stmt (.block thenBody) :: Stmt.nodesList thenBody)
  | .ifElse condition thenBody elseBody =>
    .stmt (.ifElse condition thenBody elseBody) ::
      (condition.nodes ++ .stmt (.block thenBody) :: Stmt.nodesList thenBody ++
        .stmt (.block elseBody) :: Stmt.nodesList elseBody)
  | .loop condition body =>
    .stmt (.loop condition body) ::
      (condition.nodes ++ .stmt (.block body) :: Stmt.nodesList body)
  | .forEach item collection body =>
    .stmt (.forEach item collection body) ::
      (collection.nodes ++ .stmt (.block body) :: Stmt.nodesList body)

def Stmt.nodesList : List Stmt → List Node
  | [] => []
  | stmt :: rest => stmt.nodes ++ Stmt.nodesList rest

end

end Document

/-! ### What a scope asks -/

/-- A type that is left out is known; one that is named has to be declared. -/
def IsKnownType (types : List String) (ty : Option String) : Prop :=
  ∀ name, ty = some name → name ∈ types

theorem exists_typeId_iff (types : List String) (ty : Option String) :
    (∃ id, typeId types ty = .ok id) ↔ IsKnownType types ty := by
  cases ty with
  | none => simp [typeId, IsKnownType]
  | some name =>
      cases hindex : types.idxOf? name with
      | none =>
          have hnot : name ∉ types := List.idxOf?_eq_none_iff.mp hindex
          simp [typeId, IsKnownType, hindex, hnot]
      | some position =>
          have hmem : name ∈ types := List.isSome_idxOf?.mp (Option.isSome_of_eq_some hindex)
          simp [typeId, IsKnownType, hindex, hmem]

namespace Scope

section Rules

variable (scope : Scope)

def HasLocal (name : String) : Prop := name ∈ scope.locals ∧ name ∉ scope.params

def HasMethod (text : String) : Prop :=
  text ∈ scope.methods.map (·.effectiveSignature) ∨ (scope.methods.map (·.name)).count text = 1

/-- Only a local can be passed `out`. -/
def AdmitsArgument (argument : PassMode × Document.Expr) : Prop :=
  argument.1 = .out → ∃ name, argument.2 = .ident name ∧ scope.HasLocal name

def AdmitsExpr : Document.Expr → Prop
  | .literal => True
  | .ident name => name ∈ scope.params ∨ name ∈ scope.locals
  | .staticField _ ty => IsKnownType scope.types ty
  | .field _ _ ty => IsKnownType scope.types ty
  | .index _ _ ty => IsKnownType scope.types ty
  | .slice _ _ ty => IsKnownType scope.types ty
  | .scopeValue _ ty => IsKnownType scope.types ty
  | .call method args ty =>
    scope.HasMethod method ∧ (∀ argument ∈ args, scope.AdmitsArgument argument) ∧
      IsKnownType scope.types ty
  | .computed _ ty => IsKnownType scope.types ty

/-- What the scope asks of one node, whatever it asks of its parts. -/
def Admits : Document.Node → Prop
  | .expr expr => scope.AdmitsExpr expr
  | .stmt (.declare target _) => scope.HasLocal target
  | .stmt (.rebind target _) => scope.HasLocal target
  | .stmt (.forEach item _ _) => scope.HasLocal item
  | .stmt _ => True

end Rules

variable {scope : Scope}

/-! ### Resolving names -/

theorem resolveVariable_eq_local_iff (name : String) :
    (∃ target, scope.resolveVariable name = .ok (.localVar target)) ↔ scope.HasLocal name := by
  unfold resolveVariable HasLocal
  cases hparam : scope.params.idxOf? name with
  | some target =>
      have hmem := List.isSome_idxOf?.mp (Option.isSome_of_eq_some hparam)
      simp [hmem]
  | none =>
      have hnot := List.idxOf?_eq_none_iff.mp hparam
      cases hlocal : scope.locals.idxOf? name with
      | none =>
          have hnotLocal := List.idxOf?_eq_none_iff.mp hlocal
          simp [hnotLocal]
      | some target =>
          have hmem := List.isSome_idxOf?.mp (Option.isSome_of_eq_some hlocal)
          simp [hmem, hnot]

theorem exists_resolveVariable_iff (name : String) :
    (∃ found, scope.resolveVariable name = .ok found) ↔
      name ∈ scope.params ∨ name ∈ scope.locals := by
  unfold resolveVariable
  rw [← List.isSome_idxOf?, ← List.isSome_idxOf?]
  cases scope.params.idxOf? name <;> cases scope.locals.idxOf? name <;> simp

theorem exists_resolveLocal_iff (name : String) :
    (∃ target, scope.resolveLocal name = .ok target) ↔ scope.HasLocal name := by
  rw [← resolveVariable_eq_local_iff]
  unfold resolveLocal
  cases hvariable : scope.resolveVariable name with
  | error cause => simp
  | ok found => cases found <;> simp

theorem length_methods_named (methods : List Document.Method) (text : String) :
    (methods.zipIdx.filter fun (method, _) => method.name == text).length =
      (methods.map (·.name)).count text := by
  have hfst : (methods.zipIdx.map Prod.fst).countP (fun method => method.name == text) =
      (methods.zipIdx.filter fun (method, _) => method.name == text).length := by
    rw [List.countP_map, List.countP_eq_length_filter]
    rfl
  rw [← hfst, List.zipIdx_map_fst, List.count, List.countP_map]
  rfl

theorem exists_methodId_iff (text : String) :
    (∃ id, scope.methodId text = .ok id) ↔ scope.HasMethod text := by
  have hsignature :
      (scope.methods.findIdx? fun method => method.effectiveSignature == text).isSome ↔
        text ∈ scope.methods.map (·.effectiveSignature) := by
    rw [List.findIdx?_isSome, List.any_eq_true, List.mem_map]
    simp only [beq_iff_eq]
  unfold methodId HasMethod
  rw [← hsignature, ← length_methods_named]
  cases scope.methods.findIdx? fun method => method.effectiveSignature == text with
  | some id => simp
  | none =>
      cases scope.methods.zipIdx.filter fun (method, _) => method.name == text with
      | nil => simp
      | cons found rest => cases rest <;> simp

theorem exists_typed_iff (ty : Option String) (build : TypeId → Expr Unit) :
    (∃ resolved, (do return build (← typeId scope.types ty) : Except LowerError (Expr Unit)) =
      .ok resolved) ↔ IsKnownType scope.types ty := by
  rw [exists_bind_pure_eq_ok_iff, exists_typeId_iff]

/-- Only the name of a local is resolved to a local. -/
theorem resolveExpr_eq_local_iff {expr : Document.Expr} :
    (∃ target, scope.resolveExpr expr = .ok (.localVar () target)) ↔
      ∃ name, expr = .ident name ∧ scope.HasLocal name := by
  cases expr with
  | ident name =>
      simp only [resolveExpr, Document.Expr.ident.injEq, exists_eq_left',
        ← resolveVariable_eq_local_iff]
      cases hfound : scope.resolveVariable name with
      | error cause => simp [bind, Except.bind]
      | ok found => cases found <;> simp [bind, Except.bind, pure, Except.pure]
  | _ => simp [resolveExpr, bind_eq_ok_iff, pure, Except.pure]

theorem exists_checkArgument_iff {mode : PassMode} {expr : Document.Expr} {resolved : Expr Unit}
    (hresolve : scope.resolveExpr expr = .ok resolved) :
    (∃ argument, scope.checkArgument mode resolved = .ok argument) ↔
      scope.AdmitsArgument (mode, expr) := by
  unfold AdmitsArgument
  rw [← resolveExpr_eq_local_iff, hresolve]
  cases mode with
  | value | ref => cases resolved <;> simp [checkArgument]
  | out => cases resolved <;> simp [checkArgument]

theorem eq_of_checkArgument {mode : PassMode} {expr : Expr Unit} {argument : PassMode × Expr Unit}
    (hcheck : scope.checkArgument mode expr = .ok argument) : argument = (mode, expr) := by
  cases mode with
  | value | ref => exact (Except.ok.inj hcheck).symm
  | out =>
      cases expr with
      | localVar label target => exact (Except.ok.inj hcheck).symm
      | _ => cases hcheck

/-! ### Resolving trees -/

mutual

theorem exists_resolveExpr_iff : (expr : Document.Expr) →
    ((∃ resolved, scope.resolveExpr expr = .ok resolved) ↔
      ∀ part ∈ expr.preorder, scope.AdmitsExpr part)
  | .literal => by simp [resolveExpr, Document.Expr.preorder, AdmitsExpr]
  | .ident name => by
      rw [Document.Expr.preorder, List.forall_mem_singleton, AdmitsExpr,
        ← exists_resolveVariable_iff, resolveExpr]
      cases scope.resolveVariable name with
      | error cause => simp [bind, Except.bind]
      | ok found => cases found <;> simp [bind, Except.bind, pure, Except.pure]
  | .staticField name ty => by
      rw [resolveExpr, exists_typed_iff, Document.Expr.preorder, List.forall_mem_singleton,
        AdmitsExpr]
  | .field receiver name ty => by
      rw [resolveExpr, exists_bind_eq_ok_iff fun _ _ => exists_typed_iff ty _,
        exists_resolveExpr_iff receiver, Document.Expr.preorder, List.forall_mem_cons, AdmitsExpr,
        and_comm]
  | .index receiver operands ty => by
      rw [resolveExpr, exists_bind_eq_ok_iff fun _ _ =>
          exists_bind_eq_ok_iff fun _ _ => exists_typed_iff ty _,
        exists_resolveExpr_iff receiver, exists_resolveExprs_iff operands, Document.Expr.preorder,
        List.forall_mem_cons, List.forall_mem_append, AdmitsExpr, ← and_assoc, and_comm]
  | .slice receiver operands ty => by
      rw [resolveExpr, exists_bind_eq_ok_iff fun _ _ =>
          exists_bind_eq_ok_iff fun _ _ => exists_typed_iff ty _,
        exists_resolveExpr_iff receiver, exists_resolveExprs_iff operands, Document.Expr.preorder,
        List.forall_mem_cons, List.forall_mem_append, AdmitsExpr, ← and_assoc, and_comm]
  | .scopeValue inner ty => by
      rw [resolveExpr, exists_bind_eq_ok_iff fun _ _ => exists_typed_iff ty _,
        exists_resolveExpr_iff inner, Document.Expr.preorder, List.forall_mem_cons, AdmitsExpr,
        and_comm]
  | .call method args ty => by
      rw [resolveExpr, exists_bind_eq_ok_iff fun _ _ =>
          exists_bind_eq_ok_iff fun _ _ => exists_typed_iff ty _,
        exists_methodId_iff, exists_resolveArguments_iff args, Document.Expr.preorder,
        List.forall_mem_cons, AdmitsExpr]
      tauto
  | .computed operands ty => by
      rw [resolveExpr, exists_bind_eq_ok_iff fun _ _ => exists_typed_iff ty _,
        exists_resolveExprs_iff operands, Document.Expr.preorder, List.forall_mem_cons, AdmitsExpr,
        and_comm]

theorem exists_resolveExprs_iff : (exprs : List Document.Expr) →
    ((∃ resolved, scope.resolveExprs exprs = .ok resolved) ↔
      ∀ part ∈ Document.Expr.preorderList exprs, scope.AdmitsExpr part)
  | [] => by simp [resolveExprs, Document.Expr.preorderList]
  | expr :: rest => by
      rw [resolveExprs, exists_bind_eq_ok_iff fun _ _ => exists_bind_pure_eq_ok_iff,
        exists_resolveExpr_iff expr, exists_resolveExprs_iff rest,
        Document.Expr.preorderList, List.forall_mem_append]

theorem exists_resolveArguments_iff : (args : List (PassMode × Document.Expr)) →
    ((∃ resolved, scope.resolveArguments args = .ok resolved) ↔
      (∀ argument ∈ args, scope.AdmitsArgument argument) ∧
        ∀ part ∈ Document.Expr.preorderArgs args, scope.AdmitsExpr part)
  | [] => by simp [resolveArguments, Document.Expr.preorderArgs]
  | (mode, expr) :: rest => by
      rw [resolveArguments, exists_bind_eq_ok_iff fun _ hresolve =>
          (exists_bind_eq_ok_iff fun _ _ => exists_bind_pure_eq_ok_iff).trans
            (and_congr_left' (exists_checkArgument_iff hresolve)),
        exists_resolveExpr_iff expr, exists_resolveArguments_iff rest,
        Document.Expr.preorderArgs, List.forall_mem_append, List.forall_mem_cons]
      tauto

end

theorem forall_admits_nodes (expr : Document.Expr) :
    (∀ node ∈ expr.nodes, scope.Admits node) ↔
      ∃ resolved, scope.resolveExpr expr = .ok resolved := by
  rw [exists_resolveExpr_iff, Document.Expr.nodes, List.forall_mem_map]
  rfl

mutual

theorem exists_resolveStmt_iff : (stmt : Document.Stmt) →
    ((∃ resolved, scope.resolveStmt stmt = .ok resolved) ↔
      ∀ node ∈ stmt.nodes, scope.Admits node)
  | .declare target none => by
      rw [resolveStmt, exists_bind_eq_ok_iff fun _ _ => exists_bind_pure_eq_ok_iff,
        exists_resolveLocal_iff, Document.Stmt.nodes, List.forall_mem_singleton, Admits]
      simp [resolveOptional]
  | .declare target (some init) => by
      rw [resolveStmt, exists_bind_eq_ok_iff fun _ _ => exists_bind_pure_eq_ok_iff,
        exists_resolveLocal_iff, resolveOptional, exists_bind_pure_eq_ok_iff, Document.Stmt.nodes,
        List.forall_mem_cons, Admits, forall_admits_nodes]
  | .rebind target value => by
      rw [resolveStmt, exists_bind_eq_ok_iff fun _ _ => exists_bind_pure_eq_ok_iff,
        exists_resolveLocal_iff, Document.Stmt.nodes, List.forall_mem_cons, Admits,
        forall_admits_nodes]
  | .assign target value => by
      rw [resolveStmt, exists_bind_eq_ok_iff fun _ _ => exists_bind_pure_eq_ok_iff,
        Document.Stmt.nodes, List.forall_mem_cons, List.forall_mem_append, forall_admits_nodes,
        forall_admits_nodes]
      simp [Admits]
  | .eval value => by
      rw [resolveStmt, exists_bind_pure_eq_ok_iff, Document.Stmt.nodes, List.forall_mem_cons,
        forall_admits_nodes]
      simp [Admits]
  | .ret none => by simp [resolveStmt, resolveOptional, Document.Stmt.nodes, Admits]
  | .ret (some value) => by
      rw [resolveStmt, exists_bind_pure_eq_ok_iff, resolveOptional, exists_bind_pure_eq_ok_iff,
        Document.Stmt.nodes, List.forall_mem_cons, forall_admits_nodes]
      simp [Admits]
  | .block body => by
      rw [resolveStmt, exists_bind_pure_eq_ok_iff, exists_resolveStmts_iff body,
        Document.Stmt.nodes, List.forall_mem_cons]
      simp [Admits]
  | .ifThen condition thenBody => by
      rw [resolveStmt, exists_bind_eq_ok_iff fun _ _ => exists_bind_pure_eq_ok_iff,
        exists_resolveStmts_iff thenBody, Document.Stmt.nodes, List.forall_mem_cons,
        List.forall_mem_append, List.forall_mem_cons, forall_admits_nodes]
      simp [Admits]
  | .ifElse condition thenBody elseBody => by
      rw [resolveStmt, exists_bind_eq_ok_iff fun _ _ =>
          exists_bind_eq_ok_iff fun _ _ => exists_bind_pure_eq_ok_iff,
        exists_resolveStmts_iff thenBody, exists_resolveStmts_iff elseBody, Document.Stmt.nodes,
        List.forall_mem_cons, List.forall_mem_append, List.forall_mem_append, List.forall_mem_cons,
        List.forall_mem_cons, forall_admits_nodes]
      simp [Admits, and_assoc]
  | .loop condition body => by
      rw [resolveStmt, exists_bind_eq_ok_iff fun _ _ => exists_bind_pure_eq_ok_iff,
        exists_resolveStmts_iff body, Document.Stmt.nodes, List.forall_mem_cons,
        List.forall_mem_append, List.forall_mem_cons, forall_admits_nodes]
      simp [Admits]
  | .forEach item collection body => by
      rw [resolveStmt, exists_bind_eq_ok_iff fun _ _ =>
          exists_bind_eq_ok_iff fun _ _ => exists_bind_pure_eq_ok_iff,
        exists_resolveLocal_iff, exists_resolveStmts_iff body, Document.Stmt.nodes,
        List.forall_mem_cons, List.forall_mem_append, List.forall_mem_cons, forall_admits_nodes]
      simp [Admits]

theorem exists_resolveStmts_iff : (stmts : List Document.Stmt) →
    ((∃ resolved, scope.resolveStmts stmts = .ok resolved) ↔
      ∀ node ∈ Document.Stmt.nodesList stmts, scope.Admits node)
  | [] => by simp [resolveStmts, Document.Stmt.nodesList]
  | stmt :: rest => by
      rw [resolveStmts, exists_bind_eq_ok_iff fun _ _ => exists_bind_pure_eq_ok_iff,
        exists_resolveStmt_iff stmt, exists_resolveStmts_iff rest, Document.Stmt.nodesList,
        List.forall_mem_append]

end

end Scope

/-! ### Declarations -/

/-- The texts differ from each other and from those in `before`. -/
def AreFresh (before texts : List String) : Prop :=
  texts.Nodup ∧ ∀ text ∈ texts, text ∉ before

theorem areFresh_cons {before rest : List String} {text : String} :
    AreFresh before (text :: rest) ↔ text ∉ before ∧ AreFresh (before ++ [text]) rest := by
  unfold AreFresh
  rw [List.nodup_cons, List.forall_mem_cons]
  constructor
  · rintro ⟨⟨hnew, hnodup⟩, htext, hrest⟩
    refine ⟨htext, hnodup, ?_⟩
    intro other hother hmem
    rcases List.mem_append.mp hmem with hbefore | hsame
    · exact hrest other hother hbefore
    · exact hnew (List.mem_singleton.mp hsame ▸ hother)
  · rintro ⟨htext, hnodup, hrest⟩
    refine ⟨⟨?_, hnodup⟩, htext, ?_⟩
    · intro hmem
      exact hrest text hmem (List.mem_append_right _ (List.mem_singleton_self text))
    · intro other hother hbefore
      exact hrest other hother (List.mem_append_left _ hbefore)

theorem nodup_append_iff_areFresh (before texts : List String) :
    (before ++ texts).Nodup ↔ before.Nodup ∧ AreFresh before texts := by
  rw [List.nodup_append]
  refine and_congr_right fun _ => and_congr_right fun _ => ?_
  constructor
  · intro happart text htext hbefore
    exact happart text hbefore text htext rfl
  · intro hfresh text hbefore other hother heq
    exact hfresh other hother (heq ▸ hbefore)

theorem Document.firstRepeated?_eq_none_iff (before texts : List String) :
    Document.firstRepeated? before texts = none ↔ AreFresh before texts := by
  induction texts generalizing before with
  | nil => simp [Document.firstRepeated?, AreFresh]
  | cons text rest ih =>
      rw [Document.firstRepeated?, areFresh_cons, ← ih]
      by_cases htext : text ∈ before <;> simp [htext]

theorem exists_declareVariable_iff (types before : List String) (method name : String)
    (ty : Option String) :
    (∃ id, declareVariable types method before name ty = .ok id) ↔
      IsKnownType types ty ∧ name ∉ before := by
  rw [declareVariable, exists_bind_eq_ok_iff, exists_typeId_iff]
  intro id _
  by_cases hname : name ∈ before
  · simp [hname, throw, throwThe, MonadExceptOf.throw, bind, Except.bind]
  · simp [hname, pure, Except.pure]

theorem exists_resolveParams_iff (types : List String) (method : String) (before : List String)
    (params : List Document.Param) :
    (∃ resolved, resolveParams types method before params = .ok resolved) ↔
      (∀ param ∈ params, IsKnownType types param.ty) ∧ AreFresh before (params.map (·.name)) := by
  induction params generalizing before with
  | nil => simp [resolveParams, AreFresh]
  | cons param rest ih =>
      rw [resolveParams, exists_bind_eq_ok_iff fun _ _ => exists_bind_pure_eq_ok_iff,
        exists_declareVariable_iff, ih, List.map_cons, areFresh_cons, List.forall_mem_cons,
        and_and_and_comm]

theorem exists_resolveLocals_iff (types : List String) (method : String) (before : List String)
    (locals : List Document.Local) :
    (∃ resolved, resolveLocals types method before locals = .ok resolved) ↔
      (∀ declared ∈ locals, IsKnownType types declared.ty) ∧
        AreFresh before (locals.map (·.name)) := by
  induction locals generalizing before with
  | nil => simp [resolveLocals, AreFresh]
  | cons declared rest ih =>
      rw [resolveLocals, exists_bind_eq_ok_iff fun _ _ => exists_bind_pure_eq_ok_iff,
        exists_declareVariable_iff, ih, List.map_cons, areFresh_cons, List.forall_mem_cons,
        and_and_and_comm]

theorem map_name_of_resolveParams {types before : List String} {method : String}
    {params : List Document.Param} {resolved : List (ParamDecl Unit)}
    (hresolve : resolveParams types method before params = .ok resolved) :
    resolved.map (·.name) = params.map (·.name) := by
  induction params generalizing before resolved with
  | nil =>
      cases hresolve
      rfl
  | cons param rest ih =>
      simp only [resolveParams, bind_eq_ok_iff, pure_eq_ok_iff] at hresolve
      obtain ⟨_, _, others, hothers, rfl⟩ := hresolve
      rw [List.map_cons, List.map_cons, ih hothers]

theorem map_name_of_resolveLocals {types before : List String} {method : String}
    {locals : List Document.Local} {resolved : List (LocalDecl Unit)}
    (hresolve : resolveLocals types method before locals = .ok resolved) :
    resolved.map (·.name) = locals.map (·.name) := by
  induction locals generalizing before resolved with
  | nil =>
      cases hresolve
      rfl
  | cons declared rest ih =>
      simp only [resolveLocals, bind_eq_ok_iff, pure_eq_ok_iff] at hresolve
      obtain ⟨_, _, others, hothers, rfl⟩ := hresolve
      rw [List.map_cons, List.map_cons, ih hothers]

/-! ### Documents -/

namespace Document

def Method.scope (document : Program) (method : Method) : Scope where
  types := document.types.map (·.name)
  methods := document.methods
  method := method.name
  params := method.params.map (·.name)
  locals := method.locals.map (·.name)

structure Method.WellScoped (document : Program) (method : Method) (body : List Stmt) : Prop where
  names_distinct : (method.params.map (·.name) ++ method.locals.map (·.name)).Nodup
  params_typed : ∀ param ∈ method.params, IsKnownType (document.types.map (·.name)) param.ty
  locals_typed : ∀ declared ∈ method.locals,
    IsKnownType (document.types.map (·.name)) declared.ty
  nodes_admitted : ∀ node ∈ Stmt.nodesList body, (method.scope document).Admits node

/-- Every name in the document has exactly one thing that it may stand for. What a method without a
body declares is never looked at. -/
structure Program.WellScoped (document : Program) : Prop where
  types_distinct : (document.types.map (·.name)).Nodup
  types_named : unknownType.name ∉ document.types.map (·.name)
  signatures_distinct : (document.methods.map (·.effectiveSignature)).Nodup
  bodies : ∀ method ∈ document.methods, ∀ body, method.body = some body →
    method.WellScoped document body

theorem Method.exists_resolveBody_iff (document : Program) (id : MethodId) (method : Method)
    (body : List Stmt) :
    (∃ resolved, method.resolveBody document id body = .ok resolved) ↔
      method.WellScoped document body := by
  rw [Method.resolveBody, exists_bind_eq_ok_iff fun _ _ =>
      exists_bind_eq_ok_iff fun _ _ => exists_bind_pure_eq_ok_iff,
    exists_resolveParams_iff, exists_resolveLocals_iff, Scope.exists_resolveStmts_iff]
  constructor
  · rintro ⟨⟨hparams, hparamNames⟩, ⟨hlocals, hlocalNames⟩, hnodes⟩
    exact ⟨(nodup_append_iff_areFresh _ _).mpr ⟨hparamNames.1, hlocalNames⟩, hparams, hlocals,
      hnodes⟩
  · rintro ⟨hnames, hparams, hlocals, hnodes⟩
    obtain ⟨hparamNames, hlocalNames⟩ := (nodup_append_iff_areFresh _ _).mp hnames
    exact ⟨⟨hparams, hparamNames, fun _ _ => List.not_mem_nil⟩, ⟨hlocals, hlocalNames⟩, hnodes⟩

/-- The method with the given body in place of its own. -/
def Method.withBody (method : Method) (body : Option (Body Unit)) : RefStability.Method Unit where
  name := method.name
  signature := method.effectiveSignature
  params := method.params.map (·.name)
  kind := method.kind
  path := method.path
  returnsRef := method.returnsRef
  body := body

/-- What resolving a method can do. -/
theorem Method.resolve_eq_ok_iff {document : Program} {id : MethodId} {method : Method}
    {resolved : RefStability.Method Unit} :
    method.resolve document id = .ok resolved ↔
      (method.body = none ∧ resolved = method.withBody none) ∨
      ∃ stmts body, method.body = some stmts ∧ method.resolveBody document id stmts = .ok body ∧
        resolved = method.withBody (some body) := by
  -- Both branches of the `match` go on with the same step, which has to be written out here.
  unfold Method.resolve
  cases hbody : method.body with
  | none =>
      change pure (method.withBody none) = Except.ok resolved ↔ _
      simp [pure, Except.pure, eq_comm]
  | some stmts =>
      change (some <$> method.resolveBody document id stmts >>= fun body =>
        pure (method.withBody body)) = _ ↔ _
      cases hresult : method.resolveBody document id stmts with
      | error cause => simp [hresult, bind, Except.bind, Functor.map, Except.map]
      | ok body =>
          simp [hresult, bind, Except.bind, Functor.map, Except.map, pure, Except.pure,
            eq_comm (a := resolved)]

theorem Method.exists_resolve_iff (document : Program) (id : MethodId) (method : Method) :
    (∃ resolved, method.resolve document id = .ok resolved) ↔
      ∀ body, method.body = some body → method.WellScoped document body := by
  simp only [Method.resolve_eq_ok_iff, ← Method.exists_resolveBody_iff document id method]
  constructor
  · rintro ⟨resolved, ⟨hnone, _⟩ | ⟨stmts, body, hsome, hbody, _⟩⟩ other hother
    · rw [hnone] at hother
      cases hother
    · rw [hsome] at hother
      cases hother
      exact ⟨body, hbody⟩
  · intro hbodies
    cases hbody : method.body with
    | none => exact ⟨_, .inl ⟨rfl, rfl⟩⟩
    | some stmts =>
        obtain ⟨body, hresolve⟩ := hbodies stmts hbody
        exact ⟨_, .inr ⟨stmts, body, rfl, hresolve, rfl⟩⟩

theorem exists_resolveMethods_iff (document : Program) (id : MethodId) (methods : List Method) :
    (∃ resolved, resolveMethods document id methods = .ok resolved) ↔
      ∀ method ∈ methods, ∀ body, method.body = some body → method.WellScoped document body := by
  induction methods generalizing id with
  | nil => simp [resolveMethods]
  | cons method rest ih =>
      rw [resolveMethods, exists_bind_eq_ok_iff fun _ _ => exists_bind_pure_eq_ok_iff,
        method.exists_resolve_iff, ih, List.forall_mem_cons]

theorem Program.resolve_eq_ok_iff {document : Program} {program : RefStability.Program Unit} :
    document.resolve = .ok program ↔
      AreFresh [unknownType.name] (document.types.map (·.name)) ∧
      AreFresh [] (document.methods.map (·.effectiveSignature)) ∧
      ∃ methods, resolveMethods document 0 document.methods = .ok methods ∧
        program = ⟨document.file, unknownType :: document.types, methods⟩ := by
  rw [← firstRepeated?_eq_none_iff, ← firstRepeated?_eq_none_iff, Program.resolve]
  cases firstRepeated? [unknownType.name] (document.types.map (·.name)) with
  | some name => simp [throw, throwThe, MonadExceptOf.throw, bind, Except.bind]
  | none =>
      cases firstRepeated? [] (document.methods.map (·.effectiveSignature)) with
      | some signature => simp [throw, throwThe, MonadExceptOf.throw, bind, Except.bind]
      | none =>
          rw [bind_eq_ok_iff]
          simp [pure, Except.pure, eq_comm]

theorem Program.exists_resolve_iff (document : Program) :
    (∃ program, document.resolve = .ok program) ↔ document.WellScoped := by
  have hmethods := exists_resolveMethods_iff document 0 document.methods
  constructor
  · rintro ⟨program, hresolve⟩
    obtain ⟨htypes, hsignatures, methods, hresolved, _⟩ := resolve_eq_ok_iff.mp hresolve
    refine ⟨htypes.1, ?_, hsignatures.1, hmethods.mp ⟨methods, hresolved⟩⟩
    intro hunknown
    exact htypes.2 _ hunknown (List.mem_singleton_self _)
  · rintro ⟨htypes, hunknown, hsignatures, hbodies⟩
    obtain ⟨methods, hresolved⟩ := hmethods.mpr hbodies
    refine ⟨_, resolve_eq_ok_iff.mpr ⟨⟨htypes, ?_⟩, ⟨hsignatures, ?_⟩, methods, hresolved, rfl⟩⟩
    · intro name hname heq
      exact hunknown (List.mem_singleton.mp heq ▸ hname)
    · intro signature _ hmem
      cases hmem

end Document

end RefStability
