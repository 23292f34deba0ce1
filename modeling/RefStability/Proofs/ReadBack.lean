import RefStability.Proofs.Reading
import RefStability.Proofs.Scoping

/-!
# Reading undoes lowering

A lowered body, read from the number of its root on, is the body that the document has, with each
call written as the signature of the method that it stands for.
-/

namespace RefStability

variable {Label : Type}

/-! ### Calls -/

namespace Document

/-- The method with the given signature, or else the first one with the given name. -/
def methodCalled? (methods : List Method) (text : String) : Option Method :=
  (methods.find? fun method => method.effectiveSignature == text).or
    (methods.find? fun method => method.name == text)

def signatureCalled (methods : List Method) (text : String) : String :=
  ((methodCalled? methods text).map Method.effectiveSignature).getD text

mutual

/-- The expression with `rename` applied to the method of every call. -/
def Expr.mapCalls (rename : String → String) : Expr → Expr
  | .literal => .literal
  | .ident name => .ident name
  | .staticField name ty => .staticField name ty
  | .field receiver name ty => .field (receiver.mapCalls rename) name ty
  | .index receiver operands ty =>
    .index (receiver.mapCalls rename) (Expr.mapCallsList rename operands) ty
  | .slice receiver operands ty =>
    .slice (receiver.mapCalls rename) (Expr.mapCallsList rename operands) ty
  | .scopeValue scope ty => .scopeValue (scope.mapCalls rename) ty
  | .call method args ty => .call (rename method) (Expr.mapCallsArgs rename args) ty
  | .computed operands ty => .computed (Expr.mapCallsList rename operands) ty

def Expr.mapCallsList (rename : String → String) : List Expr → List Expr
  | [] => []
  | expr :: rest => expr.mapCalls rename :: Expr.mapCallsList rename rest

def Expr.mapCallsArgs (rename : String → String) :
    List (PassMode × Expr) → List (PassMode × Expr)
  | [] => []
  | (mode, expr) :: rest => (mode, expr.mapCalls rename) :: Expr.mapCallsArgs rename rest

end

mutual

def Stmt.mapCalls (rename : String → String) : Stmt → Stmt
  | .declare target init => .declare target (init.map (Expr.mapCalls rename))
  | .rebind target value => .rebind target (value.mapCalls rename)
  | .assign target value => .assign (target.mapCalls rename) (value.mapCalls rename)
  | .eval value => .eval (value.mapCalls rename)
  | .ret value => .ret (value.map (Expr.mapCalls rename))
  | .block body => .block (Stmt.mapCallsList rename body)
  | .ifThen condition thenBody =>
    .ifThen (condition.mapCalls rename) (Stmt.mapCallsList rename thenBody)
  | .ifElse condition thenBody elseBody =>
    .ifElse (condition.mapCalls rename) (Stmt.mapCallsList rename thenBody)
      (Stmt.mapCallsList rename elseBody)
  | .loop condition body => .loop (condition.mapCalls rename) (Stmt.mapCallsList rename body)
  | .forEach item collection body =>
    .forEach item (collection.mapCalls rename) (Stmt.mapCallsList rename body)

def Stmt.mapCallsList (rename : String → String) : List Stmt → List Stmt
  | [] => []
  | stmt :: rest => stmt.mapCalls rename :: Stmt.mapCallsList rename rest

end

end Document

/-! ### Names -/

theorem getElem?_of_idxOf? {names : List String} {name : String} {position : Nat}
    (hposition : names.idxOf? name = some position) : names[position]? = some name := by
  obtain ⟨hlt, hname, _⟩ := List.idxOf?_eq_some_iff.mp hposition
  rw [List.getElem?_eq_getElem hlt, hname]

theorem find?_of_findIdx? {α : Type} {items : List α} {test : α → Bool} {id : Nat}
    (hid : items.findIdx? test = some id) :
    ∃ item, items[id]? = some item ∧ items.find? test = some item := by
  obtain ⟨hlt, htest, hbefore⟩ := List.findIdx?_eq_some_iff_getElem.mp hid
  refine ⟨items[id], List.getElem?_eq_getElem hlt, List.find?_eq_some_iff_getElem.mpr ?_⟩
  refine ⟨htest, id, hlt, rfl, ?_⟩
  intro earlier hearlier
  simpa using hbefore earlier hearlier

/-- The only item that passes a test is the first one. -/
theorem findIdx?_of_filter_zipIdx {α : Type} {items : List α} {test : α → Bool} {item : α}
    {id : Nat} (hfilter : items.zipIdx.filter (fun entry => test entry.1) = [(item, id)]) :
    items.findIdx? test = some id := by
  have hmem : ∀ entry, entry ∈ items.zipIdx ∧ test entry.1 = true ↔ entry = (item, id) := by
    intro entry
    have hentry : entry ∈ items.zipIdx.filter (fun entry => test entry.1) ↔
        entry ∈ items.zipIdx ∧ test entry.1 = true := List.mem_filter
    rw [← hentry, hfilter, List.mem_singleton]
  obtain ⟨hitem, htest⟩ := (hmem (item, id)).mpr rfl
  obtain ⟨hlt, hget⟩ := List.getElem?_eq_some_iff.mp (List.mem_zipIdx_iff_getElem?.mp hitem)
  have hpasses : test items[id] = true := by
    rw [hget]
    exact htest
  refine List.findIdx?_eq_some_iff_getElem.mpr ⟨hlt, hpasses, fun earlier hearlier hpass => ?_⟩
  have hfound : (items[earlier], earlier) ∈ items.zipIdx :=
    List.mem_zipIdx_iff_getElem?.mpr (List.getElem?_eq_getElem (Nat.lt_trans hearlier hlt))
  have hsame := congrArg Prod.snd ((hmem _).mp ⟨hfound, hpass⟩)
  exact Nat.ne_of_lt hearlier hsame

namespace Scope

def legend (scope : Scope) : Legend where
  types := unknownType.name :: scope.types
  signatures := scope.methods.map (·.effectiveSignature)
  params := scope.params
  locals := scope.locals

variable {scope : Scope}

theorem type?_of_typeId {ty : Option String} {id : TypeId}
    (hid : typeId scope.types ty = .ok id) : scope.legend.type? id = some ty := by
  cases ty with
  | none =>
      cases hid
      rfl
  | some name =>
      cases hposition : scope.types.idxOf? name with
      | none => simp [typeId, hposition] at hid
      | some position =>
          simp only [typeId, hposition, Except.ok.injEq] at hid
          subst hid
          change (scope.types[position]?).map some = some (some name)
          rw [getElem?_of_idxOf? hposition, Option.map_some]

theorem name?_of_resolveVariable {name : String} {found : Variable}
    (hfound : scope.resolveVariable name = .ok found) :
    scope.legend.name? found = some name := by
  unfold resolveVariable at hfound
  cases hparam : scope.params.idxOf? name with
  | some target =>
      rw [hparam] at hfound
      cases hfound
      exact getElem?_of_idxOf? hparam
  | none =>
      rw [hparam] at hfound
      cases hlocal : scope.locals.idxOf? name with
      | some target =>
          rw [hlocal] at hfound
          cases hfound
          exact getElem?_of_idxOf? hlocal
      | none =>
          rw [hlocal] at hfound
          cases hfound

theorem name?_of_resolveLocal {name : String} {target : LocalId}
    (htarget : scope.resolveLocal name = .ok target) :
    scope.legend.name? (.localVar target) = some name := by
  unfold resolveLocal at htarget
  cases hfound : scope.resolveVariable name with
  | error cause =>
      rw [hfound] at htarget
      cases htarget
  | ok found =>
      rw [hfound] at htarget
      cases found with
      | param other => cases htarget
      | localVar other =>
          cases htarget
          exact name?_of_resolveVariable hfound

/-- A call is resolved to the method with that signature, or else to the only one with that name. -/
theorem methodCalled?_of_methodId {text : String} {id : MethodId}
    (hid : scope.methodId text = .ok id) :
    ∃ method, scope.methods[id]? = some method ∧
      Document.methodCalled? scope.methods text = some method := by
  unfold methodId at hid
  unfold Document.methodCalled?
  cases hsignature : scope.methods.findIdx? fun method => method.effectiveSignature == text with
  | some found =>
      rw [hsignature] at hid
      cases hid
      obtain ⟨method, hmethod, hfind⟩ := find?_of_findIdx? hsignature
      exact ⟨method, hmethod, by rw [hfind, Option.some_or]⟩
  | none =>
      have hfind : (scope.methods.find? fun method => method.effectiveSignature == text) = none :=
        List.find?_eq_none.mpr (by simpa using List.findIdx?_eq_none_iff.mp hsignature)
      rw [hsignature] at hid
      rw [hfind, Option.none_or]
      cases hnamed : scope.methods.zipIdx.filter fun entry => entry.1.name == text with
      | nil => simp [hnamed] at hid
      | cons entry rest =>
          cases rest with
          | cons => simp [hnamed] at hid
          | nil =>
              obtain ⟨method, found⟩ := entry
              simp only [hnamed, Except.ok.injEq] at hid
              subst hid
              exact find?_of_findIdx? (findIdx?_of_filter_zipIdx hnamed)

theorem signature_of_methodId {text : String} {id : MethodId}
    (hid : scope.methodId text = .ok id) :
    scope.legend.signatures[id]? = some (Document.signatureCalled scope.methods text) := by
  obtain ⟨method, hmethod, hcalled⟩ := methodCalled?_of_methodId hid
  simp [legend, Document.signatureCalled, hcalled, hmethod]

/-! ### Reading back

Reading goes by the numbers that placing gives, so resolved trees are taken here as they are placed
in a body in source order. -/

section Read

variable {body : Body Site}

mutual

theorem readExpr_of_resolveExpr (horder : body.InSourceOrder) : (expr : Document.Expr) →
    {resolved : Expr Unit} →
    scope.resolveExpr expr = .ok resolved → (cursor : Cursor) →
      Node.expr (resolved.place cursor).1 ∈ body.nodes →
      body.readExpr scope.legend (resolved.place cursor).1.label.index =
        some (expr.mapCalls (Document.signatureCalled scope.methods))
  | .literal, resolved, hresolve, cursor, hmem => by
      cases hresolve
      rw [horder.readExpr_eq _ hmem]
      rfl
  | .ident name, resolved, hresolve, cursor, hmem => by
      obtain ⟨found, hfound, hresult⟩ := bind_eq_ok_iff.mp hresolve
      have hname := name?_of_resolveVariable hfound
      rw [horder.readExpr_eq _ hmem]
      cases found with
      | localVar target =>
          cases hresult
          simp only [Expr.place, Legend.expr?, hname]
          rfl
      | param target =>
          cases hresult
          simp only [Expr.place, Legend.expr?, hname]
          rfl
  | .staticField name ty, resolved, hresolve, cursor, hmem => by
      simp only [resolveExpr, bind_eq_ok_iff, pure_eq_ok_iff] at hresolve
      obtain ⟨id, hid, rfl⟩ := hresolve
      rw [horder.readExpr_eq _ hmem]
      simp only [Expr.place, Legend.expr?, type?_of_typeId hid]
      rfl
  | .field receiver name ty, resolved, hresolve, cursor, hmem => by
      simp only [resolveExpr, bind_eq_ok_iff, pure_eq_ok_iff] at hresolve
      obtain ⟨inner, hinner, id, hid, rfl⟩ := hresolve
      have hreceiver := readExpr_of_resolveExpr horder receiver hinner _
        (Body.mem_nodes_of_part hmem List.mem_cons_self)
      rw [horder.readExpr_eq _ hmem]
      simp only [Expr.place, Legend.expr?, hreceiver, type?_of_typeId hid]
      rfl
  | .index receiver operands ty, resolved, hresolve, cursor, hmem => by
      simp only [resolveExpr, bind_eq_ok_iff, pure_eq_ok_iff] at hresolve
      obtain ⟨inner, hinner, others, hothers, id, hid, rfl⟩ := hresolve
      have hreceiver := readExpr_of_resolveExpr horder receiver hinner _
        (Body.mem_nodes_of_part hmem List.mem_cons_self)
      have hoperands := readExprs_of_resolveExprs horder operands hothers _ fun part hpart =>
        Body.mem_nodes_of_part hmem (List.mem_map_of_mem (List.mem_cons_of_mem _ hpart))
      rw [horder.readExpr_eq _ hmem]
      simp only [Expr.place, Legend.expr?, hreceiver, hoperands, type?_of_typeId hid]
      rfl
  | .slice receiver operands ty, resolved, hresolve, cursor, hmem => by
      simp only [resolveExpr, bind_eq_ok_iff, pure_eq_ok_iff] at hresolve
      obtain ⟨inner, hinner, others, hothers, id, hid, rfl⟩ := hresolve
      have hreceiver := readExpr_of_resolveExpr horder receiver hinner _
        (Body.mem_nodes_of_part hmem List.mem_cons_self)
      have hoperands := readExprs_of_resolveExprs horder operands hothers _ fun part hpart =>
        Body.mem_nodes_of_part hmem (List.mem_map_of_mem (List.mem_cons_of_mem _ hpart))
      rw [horder.readExpr_eq _ hmem]
      simp only [Expr.place, Legend.expr?, hreceiver, hoperands, type?_of_typeId hid]
      rfl
  | .scopeValue inner ty, resolved, hresolve, cursor, hmem => by
      simp only [resolveExpr, bind_eq_ok_iff, pure_eq_ok_iff] at hresolve
      obtain ⟨handle, hhandle, id, hid, rfl⟩ := hresolve
      have hinner := readExpr_of_resolveExpr horder inner hhandle _
        (Body.mem_nodes_of_part hmem List.mem_cons_self)
      rw [horder.readExpr_eq _ hmem]
      simp only [Expr.place, Legend.expr?, hinner, type?_of_typeId hid]
      rfl
  | .call method args ty, resolved, hresolve, cursor, hmem => by
      simp only [resolveExpr, bind_eq_ok_iff, pure_eq_ok_iff] at hresolve
      obtain ⟨target, htarget, others, hothers, id, hid, rfl⟩ := hresolve
      have hargs := readArgs_of_resolveArguments horder args hothers cursor.tick fun arg harg =>
        Body.mem_nodes_of_part hmem (List.mem_map_of_mem (List.mem_map_of_mem harg))
      rw [horder.readExpr_eq _ hmem]
      simp only [Expr.place, Legend.expr?, hargs, signature_of_methodId htarget,
        type?_of_typeId hid]
      rfl
  | .computed operands ty, resolved, hresolve, cursor, hmem => by
      simp only [resolveExpr, bind_eq_ok_iff, pure_eq_ok_iff] at hresolve
      obtain ⟨others, hothers, id, hid, rfl⟩ := hresolve
      have hoperands := readExprs_of_resolveExprs horder operands hothers cursor.tick
        fun part hpart => Body.mem_nodes_of_part hmem (List.mem_map_of_mem hpart)
      rw [horder.readExpr_eq _ hmem]
      simp only [Expr.place, Legend.expr?, hoperands, type?_of_typeId hid]
      rfl

theorem readExprs_of_resolveExprs (horder : body.InSourceOrder) : (exprs : List Document.Expr) →
    {resolved : List (Expr Unit)} →
    scope.resolveExprs exprs = .ok resolved → (cursor : Cursor) →
      (∀ part ∈ (Expr.placeList resolved cursor).1, Node.expr part ∈ body.nodes) →
      (Expr.placeList resolved cursor).1.mapM
          (fun part => body.readExpr scope.legend part.label.index) =
        some (Document.Expr.mapCallsList (Document.signatureCalled scope.methods) exprs)
  | [], resolved, hresolve, cursor, hmem => by
      cases hresolve
      rfl
  | expr :: rest, resolved, hresolve, cursor, hmem => by
      simp only [resolveExprs, bind_eq_ok_iff, pure_eq_ok_iff] at hresolve
      obtain ⟨first, hfirst, others, hothers, rfl⟩ := hresolve
      have hexpr := readExpr_of_resolveExpr horder expr hfirst cursor (hmem _ List.mem_cons_self)
      have hrest := readExprs_of_resolveExprs horder rest hothers _ fun part hpart =>
        hmem part (List.mem_cons_of_mem _ hpart)
      simp only [Expr.placeList, List.mapM_cons, hexpr, hrest]
      rfl

theorem readArgs_of_resolveArguments (horder : body.InSourceOrder) :
    (args : List (PassMode × Document.Expr)) →
    {resolved : List (PassMode × Expr Unit)} → scope.resolveArguments args = .ok resolved →
      (cursor : Cursor) →
      (∀ arg ∈ (Expr.placeArgs resolved cursor).1, Node.expr arg.2 ∈ body.nodes) →
      (Expr.placeArgs resolved cursor).1.mapM
          (fun arg => (body.readExpr scope.legend arg.2.label.index).map (arg.1, ·)) =
        some (Document.Expr.mapCallsArgs (Document.signatureCalled scope.methods) args)
  | [], resolved, hresolve, cursor, hmem => by
      cases hresolve
      rfl
  | (mode, expr) :: rest, resolved, hresolve, cursor, hmem => by
      simp only [resolveArguments, bind_eq_ok_iff, pure_eq_ok_iff] at hresolve
      obtain ⟨first, hfirst, argument, hargument, others, hothers, rfl⟩ := hresolve
      obtain rfl := eq_of_checkArgument hargument
      have hexpr := readExpr_of_resolveExpr horder expr hfirst cursor (hmem _ List.mem_cons_self)
      have hrest := readArgs_of_resolveArguments horder rest hothers _ fun arg harg =>
        hmem arg (List.mem_cons_of_mem _ harg)
      simp only [Expr.placeArgs, List.mapM_cons, hexpr, hrest]
      rfl

end

/-- A placed block is read as what its statements are read as. -/
theorem readBlock_eq (horder : body.InSourceOrder) {source : List (Stmt Unit)} (cursor : Cursor)
    (hmem : Node.stmt (Stmt.placeBlock ⟨(), source⟩ cursor).1.toStmt ∈ body.nodes)
    {stmts : List Document.Stmt}
    (hstmts : (∀ part ∈ (Stmt.placeList source cursor.tick).1, Node.stmt part ∈ body.nodes) →
      (Stmt.placeList source cursor.tick).1.mapM
        (fun part => body.readStmt scope.legend part.label.index) = some stmts) :
    Legend.block? (fun part => body.readStmt scope.legend part.label.index)
      (Stmt.placeBlock ⟨(), source⟩ cursor).1 = some stmts := by
  have hparts := hstmts fun part hpart =>
    Body.mem_nodes_of_part hmem (List.mem_map_of_mem hpart)
  rw [Legend.block?, horder.readStmt_eq _ hmem]
  simp only [Stmt.placeBlock, Block.toStmt, Legend.stmt?, hparts]
  rfl

mutual

theorem readStmt_of_resolveStmt (horder : body.InSourceOrder) : (stmt : Document.Stmt) →
    {resolved : Stmt Unit} → scope.resolveStmt stmt = .ok resolved → (cursor : Cursor) →
      Node.stmt (resolved.place cursor).1 ∈ body.nodes →
      body.readStmt scope.legend (resolved.place cursor).1.label.index =
        some (stmt.mapCalls (Document.signatureCalled scope.methods))
  | .declare target none, resolved, hresolve, cursor, hmem => by
      obtain ⟨item, hitem, hresult⟩ := bind_eq_ok_iff.mp hresolve
      cases hresult
      have hname := name?_of_resolveLocal hitem
      rw [horder.readStmt_eq _ hmem]
      simp only [Stmt.place, Expr.placeOptional, Legend.stmt?, hname]
      rfl
  | .declare target (some init), resolved, hresolve, cursor, hmem => by
      simp only [resolveStmt, resolveOptional, bind_eq_ok_iff, pure_eq_ok_iff] at hresolve
      obtain ⟨item, hitem, value, ⟨inner, hinner, rfl⟩, rfl⟩ := hresolve
      have hname := name?_of_resolveLocal hitem
      have hinit := readExpr_of_resolveExpr horder init hinner _
        (Body.mem_nodes_of_part hmem List.mem_cons_self)
      rw [horder.readStmt_eq _ hmem]
      simp only [Stmt.place, Expr.placeOptional, Legend.stmt?, Option.mapM_some, hname, hinit]
      rfl
  | .rebind target value, resolved, hresolve, cursor, hmem => by
      simp only [resolveStmt, bind_eq_ok_iff, pure_eq_ok_iff] at hresolve
      obtain ⟨item, hitem, inner, hinner, rfl⟩ := hresolve
      have hname := name?_of_resolveLocal hitem
      have hvalue := readExpr_of_resolveExpr horder value hinner _
        (Body.mem_nodes_of_part hmem List.mem_cons_self)
      rw [horder.readStmt_eq _ hmem]
      simp only [Stmt.place, Legend.stmt?, hname, hvalue]
      rfl
  | .assign target value, resolved, hresolve, cursor, hmem => by
      simp only [resolveStmt, bind_eq_ok_iff, pure_eq_ok_iff] at hresolve
      obtain ⟨left, hleft, right, hright, rfl⟩ := hresolve
      have htarget := readExpr_of_resolveExpr horder target hleft _
        (Body.mem_nodes_of_part hmem List.mem_cons_self)
      have hvalue := readExpr_of_resolveExpr horder value hright _
        (Body.mem_nodes_of_part hmem (List.mem_cons_of_mem _ List.mem_cons_self))
      rw [horder.readStmt_eq _ hmem]
      simp only [Stmt.place, Legend.stmt?, htarget, hvalue]
      rfl
  | .eval value, resolved, hresolve, cursor, hmem => by
      simp only [resolveStmt, bind_eq_ok_iff, pure_eq_ok_iff] at hresolve
      obtain ⟨inner, hinner, rfl⟩ := hresolve
      have hvalue := readExpr_of_resolveExpr horder value hinner _
        (Body.mem_nodes_of_part hmem List.mem_cons_self)
      rw [horder.readStmt_eq _ hmem]
      simp only [Stmt.place, Legend.stmt?, hvalue]
      rfl
  | .ret none, resolved, hresolve, cursor, hmem => by
      cases hresolve
      rw [horder.readStmt_eq _ hmem]
      rfl
  | .ret (some value), resolved, hresolve, cursor, hmem => by
      simp only [resolveStmt, resolveOptional, bind_eq_ok_iff, pure_eq_ok_iff] at hresolve
      obtain ⟨found, ⟨inner, hinner, rfl⟩, rfl⟩ := hresolve
      have hvalue := readExpr_of_resolveExpr horder value hinner _
        (Body.mem_nodes_of_part hmem List.mem_cons_self)
      rw [horder.readStmt_eq _ hmem]
      simp only [Stmt.place, Expr.placeOptional, Legend.stmt?, Option.mapM_some, hvalue]
      rfl
  | .block stmts, resolved, hresolve, cursor, hmem => by
      simp only [resolveStmt, bind_eq_ok_iff, pure_eq_ok_iff] at hresolve
      obtain ⟨others, hothers, rfl⟩ := hresolve
      have hstmts := readStmts_of_resolveStmts horder stmts hothers cursor.tick
        fun part hpart => Body.mem_nodes_of_part hmem (List.mem_map_of_mem hpart)
      rw [horder.readStmt_eq _ hmem]
      simp only [Stmt.place, Legend.stmt?, hstmts]
      rfl
  | .ifThen condition thenBody, resolved, hresolve, cursor, hmem => by
      simp only [resolveStmt, bind_eq_ok_iff, pure_eq_ok_iff] at hresolve
      obtain ⟨test, htest, stmts, hstmts, rfl⟩ := hresolve
      have hcondition := readExpr_of_resolveExpr horder condition htest _
        (Body.mem_nodes_of_part hmem List.mem_cons_self)
      have hthen := readBlock_eq horder _
        (Body.mem_nodes_of_part hmem (List.mem_cons_of_mem _ List.mem_cons_self))
        (readStmts_of_resolveStmts horder thenBody hstmts _)
      rw [horder.readStmt_eq _ hmem]
      simp only [Stmt.place, Legend.stmt?, hcondition, hthen]
      rfl
  | .ifElse condition thenBody elseBody, resolved, hresolve, cursor, hmem => by
      simp only [resolveStmt, bind_eq_ok_iff, pure_eq_ok_iff] at hresolve
      obtain ⟨test, htest, stmts, hstmts, others, hothers, rfl⟩ := hresolve
      have hcondition := readExpr_of_resolveExpr horder condition htest _
        (Body.mem_nodes_of_part hmem List.mem_cons_self)
      have hthen := readBlock_eq horder _
        (Body.mem_nodes_of_part hmem (List.mem_cons_of_mem _ List.mem_cons_self))
        (readStmts_of_resolveStmts horder thenBody hstmts _)
      have helse := readBlock_eq horder (Stmt.placeBlock ⟨(), stmts⟩ (test.place cursor.tick).2).2
        (Body.mem_nodes_of_part hmem
          (List.mem_cons_of_mem _ (List.mem_cons_of_mem _ List.mem_cons_self)))
        (readStmts_of_resolveStmts horder elseBody hothers _)
      rw [horder.readStmt_eq _ hmem]
      simp only [Stmt.place, Legend.stmt?, hcondition, hthen, helse]
      rfl
  | .loop condition stmts, resolved, hresolve, cursor, hmem => by
      simp only [resolveStmt, bind_eq_ok_iff, pure_eq_ok_iff] at hresolve
      obtain ⟨test, htest, others, hothers, rfl⟩ := hresolve
      have hcondition := readExpr_of_resolveExpr horder condition htest _
        (Body.mem_nodes_of_part hmem List.mem_cons_self)
      have hbody := readBlock_eq horder _
        (Body.mem_nodes_of_part hmem (List.mem_cons_of_mem _ List.mem_cons_self))
        (readStmts_of_resolveStmts horder stmts hothers _)
      rw [horder.readStmt_eq _ hmem]
      simp only [Stmt.place, Legend.stmt?, hcondition, hbody]
      rfl
  | .forEach item collection stmts, resolved, hresolve, cursor, hmem => by
      simp only [resolveStmt, bind_eq_ok_iff, pure_eq_ok_iff] at hresolve
      obtain ⟨target, htarget, source, hsource, others, hothers, rfl⟩ := hresolve
      have hname := name?_of_resolveLocal htarget
      have hcollection := readExpr_of_resolveExpr horder collection hsource _
        (Body.mem_nodes_of_part hmem List.mem_cons_self)
      have hbody := readBlock_eq horder _
        (Body.mem_nodes_of_part hmem (List.mem_cons_of_mem _ List.mem_cons_self))
        (readStmts_of_resolveStmts horder stmts hothers _)
      rw [horder.readStmt_eq _ hmem]
      simp only [Stmt.place, Legend.stmt?, hname, hcollection, hbody]
      rfl

theorem readStmts_of_resolveStmts (horder : body.InSourceOrder) : (stmts : List Document.Stmt) →
    {resolved : List (Stmt Unit)} → scope.resolveStmts stmts = .ok resolved → (cursor : Cursor) →
      (∀ part ∈ (Stmt.placeList resolved cursor).1, Node.stmt part ∈ body.nodes) →
      (Stmt.placeList resolved cursor).1.mapM
          (fun part => body.readStmt scope.legend part.label.index) =
        some (Document.Stmt.mapCallsList (Document.signatureCalled scope.methods) stmts)
  | [], resolved, hresolve, cursor, hmem => by
      cases hresolve
      rfl
  | stmt :: rest, resolved, hresolve, cursor, hmem => by
      simp only [resolveStmts, bind_eq_ok_iff, pure_eq_ok_iff] at hresolve
      obtain ⟨first, hfirst, others, hothers, rfl⟩ := hresolve
      have hstmt := readStmt_of_resolveStmt horder stmt hfirst cursor (hmem _ List.mem_cons_self)
      have hrest := readStmts_of_resolveStmts horder rest hothers _ fun part hpart =>
        hmem part (List.mem_cons_of_mem _ hpart)
      simp only [Stmt.placeList, List.mapM_cons, hstmt, hrest]
      rfl

end

end Read

end Scope

/-! ### Declarations -/

theorem typeId_of_declareVariable {types before : List String} {method name : String}
    {ty : Option String} {id : TypeId}
    (hdeclare : declareVariable types method before name ty = .ok id) :
    typeId types ty = .ok id := by
  obtain ⟨found, hfound, hfresh⟩ := bind_eq_ok_iff.mp hdeclare
  by_cases hname : name ∈ before
  · simp [hname, throw, throwThe, MonadExceptOf.throw, bind, Except.bind] at hfresh
  · simp only [List.contains_eq_mem, hname, decide_false] at hfresh
    cases hfresh
    exact hfound

namespace Scope

variable {scope : Scope} {method : String} {before : List String}

theorem read_of_resolveParams {params : List Document.Param} {resolved : List (ParamDecl Unit)}
    (hresolve : resolveParams scope.types method before params = .ok resolved) :
    resolved.map scope.legend.param? = params.map some := by
  induction params generalizing before resolved with
  | nil =>
      cases hresolve
      rfl
  | cons param rest ih =>
      simp only [resolveParams, bind_eq_ok_iff, pure_eq_ok_iff] at hresolve
      obtain ⟨id, hid, others, hothers, rfl⟩ := hresolve
      have htype := type?_of_typeId (typeId_of_declareVariable hid)
      rw [List.map_cons, List.map_cons, ih hothers]
      simp [Legend.param?, htype]

theorem read_of_resolveLocals {locals : List Document.Local} {resolved : List (LocalDecl Unit)}
    (hresolve : resolveLocals scope.types method before locals = .ok resolved) :
    resolved.map scope.legend.local? = locals.map some := by
  induction locals generalizing before resolved with
  | nil =>
      cases hresolve
      rfl
  | cons declared rest ih =>
      simp only [resolveLocals, bind_eq_ok_iff, pure_eq_ok_iff] at hresolve
      obtain ⟨id, hid, others, hothers, rfl⟩ := hresolve
      have htype := type?_of_typeId (typeId_of_declareVariable hid)
      rw [List.map_cons, List.map_cons, ih hothers]
      simp [Legend.local?, htype]

end Scope

theorem map_placeParams {β : Type} {view : ParamDecl Site → β} {plain : ParamDecl Label → β}
    (hview : ∀ site (param : ParamDecl Label),
      view ⟨site, param.name, param.ty, param.byRef⟩ = plain param)
    (first : Nat) (params : List (ParamDecl Label)) :
    (placeParams first params).map view = params.map plain := by
  apply List.ext_getElem?
  intro number
  simp [placeParams, Function.comp_def, hview]

theorem map_placeLocals {β : Type} {view : LocalDecl Site → β} {plain : LocalDecl Label → β}
    (hview : ∀ site (declared : LocalDecl Label),
      view ⟨site, declared.name, declared.ty, declared.kind⟩ = plain declared)
    (first : Nat) (locals : List (LocalDecl Label)) :
    (placeLocals first locals).map view = locals.map plain := by
  apply List.ext_getElem?
  intro number
  simp [placeLocals, Function.comp_def, hview]

/-! ### Programs -/

/-- A body declares what its method declares, in the same order. -/
theorem names_of_resolveBody {document : Document.Program} {id : MethodId}
    {source : Document.Method} {stmts : List Document.Stmt} {resolved : Body Unit}
    (hresolve : source.resolveBody document id stmts = .ok resolved) (start : Nat) :
    (resolved.place start).1.params.map (·.name) = source.params.map (·.name) ∧
      (resolved.place start).1.locals.map (·.name) = source.locals.map (·.name) := by
  simp only [Document.Method.resolveBody, bind_eq_ok_iff, pure_eq_ok_iff] at hresolve
  obtain ⟨params, hparams, locals, hlocals, _, _, rfl⟩ := hresolve
  constructor
  · rw [← map_name_of_resolveParams hparams]
    exact map_placeParams (fun _ _ => rfl) _ params
  · rw [← map_name_of_resolveLocals hlocals]
    exact map_placeLocals (fun _ _ => rfl) _ locals

/-- The body can be read back as the declarations and statements of the document's method. -/
structure Body.Keeps (body : Body Site) (program : Program Site) (document : Document.Program)
    (source : Document.Method) (stmts : List Document.Stmt) : Prop where
  params : body.params.map (program.legend body).param? = source.params.map some
  locals : body.locals.map (program.legend body).local? = source.locals.map some
  stmts : body.read (program.legend body) =
    some (Document.Stmt.mapCallsList (Document.signatureCalled document.methods) stmts)

structure Method.Keeps (method : Method Site) (program : Program Site)
    (document : Document.Program) (source : Document.Method) : Prop where
  name : method.name = source.name
  signature : method.signature = source.effectiveSignature
  params : method.params = source.params.map (·.name)
  kind : method.kind = source.kind
  path : method.path = source.path
  returnsRef : method.returnsRef = source.returnsRef
  body_none : source.body = none → method.body = none
  body_some : ∀ stmts, source.body = some stmts →
    ∃ body, method.body = some body ∧ body.Keeps program document source stmts

theorem Body.root_mem_nodes (body : Body Label) : Node.stmt body.root.toStmt ∈ body.nodes := by
  rw [Body.nodes, Stmt.nodesBlock_eq]
  exact Node.mem_nodes_self (.stmt body.root.toStmt)

section Lowered

variable {document : Document.Program} {program : Program Site}
  (htypes : program.types = unknownType :: document.types)
  (hsignatures : program.methods.map (·.signature) =
    document.methods.map (·.effectiveSignature))

include htypes hsignatures

theorem keeps_of_resolveBody {id : MethodId} {source : Document.Method}
    {stmts : List Document.Stmt} {resolved : Body Unit}
    (hresolve : source.resolveBody document id stmts = .ok resolved) {start : Nat}
    (hlast : (resolved.place start).2 ≤ maxPosition) :
    (resolved.place start).1.Keeps program document source stmts := by
  have horder := resolved.place_inSourceOrder start hlast
  obtain ⟨hparamNames, hlocalNames⟩ := names_of_resolveBody hresolve start
  simp only [Document.Method.resolveBody, bind_eq_ok_iff, pure_eq_ok_iff] at hresolve
  obtain ⟨params, hparams, locals, hlocals, others, hothers, rfl⟩ := hresolve
  -- The declarations of the body, by name, are those that its scope was made of.
  have hlegend : program.legend (Body.place ⟨id, document.file, (), params, locals, ⟨(), others⟩⟩
      start).1 = (source.scope document).legend := by
    simp only [Program.legend, htypes, hsignatures, hparamNames, hlocalNames]
    rfl
  have hreadParams : params.map (source.scope document).legend.param? = source.params.map some :=
    Scope.read_of_resolveParams hparams
  have hreadLocals : locals.map (source.scope document).legend.local? = source.locals.map some :=
    Scope.read_of_resolveLocals hlocals
  constructor
  · rw [hlegend, ← hreadParams]
    exact map_placeParams (fun _ _ => rfl) _ params
  · rw [hlegend, ← hreadLocals]
    exact map_placeLocals (fun _ _ => rfl) _ locals
  · rw [hlegend]
    exact Scope.readBlock_eq horder _ (Body.root_mem_nodes _)
      (Scope.readStmts_of_resolveStmts horder stmts hothers _)

theorem keeps_of_resolve {id : MethodId} {source : Document.Method} {resolved : Method Unit}
    (hresolve : source.resolve document id = .ok resolved) {start : Nat}
    (hlast : (resolved.place start).2 ≤ maxPosition) :
    (resolved.place start).1.Keeps program document source := by
  obtain ⟨hnone, rfl⟩ | ⟨stmts, body, hsome, hbody, rfl⟩ :=
    Document.Method.resolve_eq_ok_iff.mp hresolve
  · exact {
      name := rfl, signature := rfl, params := rfl, kind := rfl, path := rfl, returnsRef := rfl
      body_none := fun _ => rfl
      body_some := by
        intro others hothers
        rw [hnone] at hothers
        cases hothers }
  · exact {
      name := rfl, signature := rfl, params := rfl, kind := rfl, path := rfl, returnsRef := rfl
      body_none := by
        intro hnone
        rw [hsome] at hnone
        cases hnone
      body_some := by
        intro others hothers
        rw [hsome] at hothers
        cases hothers
        exact ⟨_, rfl, keeps_of_resolveBody htypes hsignatures hbody hlast⟩ }

end Lowered

theorem getElem?_of_resolveMethods {document : Document.Program} {first : MethodId}
    {methods : List Document.Method} {resolved : List (Method Unit)}
    (hresolve : Document.resolveMethods document first methods = .ok resolved) {id : MethodId}
    {source : Document.Method} (hsource : methods[id]? = some source) :
    ∃ result, resolved[id]? = some result ∧ source.resolve document (first + id) = .ok result := by
  induction methods generalizing first resolved id with
  | nil => cases hsource
  | cons method rest ih =>
      simp only [Document.resolveMethods, bind_eq_ok_iff, pure_eq_ok_iff] at hresolve
      obtain ⟨result, hresult, others, hothers, rfl⟩ := hresolve
      cases id with
      | zero =>
          cases hsource
          exact ⟨result, rfl, hresult⟩
      | succ id =>
          obtain ⟨found, hfound, hmethod⟩ := ih hothers hsource
          rw [Nat.add_right_comm] at hmethod
          exact ⟨found, hfound, hmethod⟩

theorem eq_of_getElem?_map {α : Type} {values : List α} {name : α → String}
    (hnodup : (values.map name).Nodup) {left right : Nat} {text : String}
    (hleft : (values[left]?).map name = some text)
    (hright : (values[right]?).map name = some text) : left = right := by
  rw [← List.getElem?_map] at hleft hright
  obtain ⟨hlt, _⟩ := List.getElem?_eq_some_iff.mp hleft
  exact (List.getElem?_inj hlt hnodup).mp (hleft.trans hright.symm)

/-- A method without its body. -/
def Method.header (method : Method Label) : Method Unit where
  name := method.name
  signature := method.signature
  params := method.params
  kind := method.kind
  path := method.path
  returnsRef := method.returnsRef
  body := none

theorem map_header_of_resolveMethods {document : Document.Program} {first : MethodId}
    {methods : List Document.Method} {resolved : List (Method Unit)}
    (hresolve : Document.resolveMethods document first methods = .ok resolved) :
    resolved.map Method.header = methods.map (·.withBody none) := by
  induction methods generalizing first resolved with
  | nil =>
      cases hresolve
      rfl
  | cons method rest ih =>
      simp only [Document.resolveMethods, bind_eq_ok_iff, pure_eq_ok_iff] at hresolve
      obtain ⟨result, hresult, others, hothers, rfl⟩ := hresolve
      have hheader : result.header = method.withBody none := by
        obtain ⟨_, rfl⟩ | ⟨_, _, _, _, rfl⟩ := Document.Method.resolve_eq_ok_iff.mp hresult
        · rfl
        · rfl
      rw [List.map_cons, List.map_cons, hheader, ih hothers]

theorem map_header_placeMethods (methods : List (Method Label)) (start : Nat) :
    (placeMethods methods start).1.map Method.header = methods.map Method.header := by
  induction methods generalizing start with
  | nil => rfl
  | cons method rest ih =>
      have hheader : (method.place start).1.header = method.header := by
        unfold Method.place
        cases method.body <;> rfl
      change (method.place start).1.header ::
        (placeMethods rest (method.place start).2).1.map Method.header = _
      rw [hheader, ih, List.map_cons]

theorem map_signature_of_resolveMethods {document : Document.Program} {first : MethodId}
    {methods : List Document.Method} {resolved : List (Method Unit)}
    (hresolve : Document.resolveMethods document first methods = .ok resolved) :
    resolved.map (·.signature) = methods.map (·.effectiveSignature) := by
  have hmap := congrArg (List.map (·.signature)) (map_header_of_resolveMethods hresolve)
  rwa [List.map_map, List.map_map] at hmap

theorem map_signature_placeMethods (methods : List (Method Label)) (start : Nat) :
    (placeMethods methods start).1.map (·.signature) = methods.map (·.signature) := by
  have hmap := congrArg (List.map (·.signature)) (map_header_placeMethods methods start)
  rwa [List.map_map, List.map_map] at hmap

/-- The program without the bodies of its methods. -/
def Program.headers (program : Program Label) : Program Unit where
  file := program.file
  types := program.types
  methods := program.methods.map Method.header

namespace Document

theorem Program.headers_of_lower {document : Program} {program : RefStability.Program Site}
    (hlower : document.lower = .ok program) :
    program.headers =
      ⟨document.file, unknownType :: document.types, document.methods.map (·.withBody none)⟩ := by
  obtain ⟨resolved, hresolve, rfl, _⟩ := lower_eq_ok_iff.mp hlower
  obtain ⟨_, _, methods, hmethods, rfl⟩ := resolve_eq_ok_iff.mp hresolve
  rw [← map_header_of_resolveMethods hmethods, ← map_header_placeMethods methods 0]
  rfl

theorem Program.signatures_nodup_of_lower {document : Program}
    {program : RefStability.Program Site} (hlower : document.lower = .ok program) :
    (program.methods.map (·.signature)).Nodup := by
  obtain ⟨resolved, hresolve, rfl, _⟩ := lower_eq_ok_iff.mp hlower
  obtain ⟨_, hsignatures, methods, hmethods, rfl⟩ := resolve_eq_ok_iff.mp hresolve
  have hmap : (placeMethods methods 0).1.map (·.signature) =
      document.methods.map (·.effectiveSignature) := by
    rw [map_signature_placeMethods, map_signature_of_resolveMethods hmethods]
  exact hmap ▸ hsignatures.1

theorem Program.methods_none_of_lower {document : Program} {program : RefStability.Program Site}
    (hlower : document.lower = .ok program) {id : MethodId}
    (hnone : document.methods[id]? = none) : program.methods[id]? = none := by
  have hheaders : program.methods.map Method.header = document.methods.map (·.withBody none) :=
    (congrArg RefStability.Program.methods (headers_of_lower hlower) :)
  have hheader := congrArg (·[id]?) hheaders
  simpa [hnone] using hheader

theorem Program.exists_method_of_lower {document : Program} {program : RefStability.Program Site}
    (hlower : document.lower = .ok program) {id : MethodId} {source : Method}
    (hsource : document.methods[id]? = some source) :
    ∃ (result : RefStability.Method Unit) (start : Nat),
      source.resolve document id = .ok result ∧
        program.methods[id]? = some (result.place start).1 ∧
        (result.place start).2 ≤ maxPosition := by
  obtain ⟨resolved, hresolve, rfl, hlast⟩ := lower_eq_ok_iff.mp hlower
  obtain ⟨_, _, methods, hmethods, rfl⟩ := resolve_eq_ok_iff.mp hresolve
  obtain ⟨result, hresult, hmethod⟩ := getElem?_of_resolveMethods hmethods hsource
  obtain ⟨start, hplaced, hle⟩ := getElem?_placeMethods methods 0 id
  rw [hresult, Option.map_some] at hplaced
  rw [Nat.zero_add] at hmethod
  exact ⟨result, start, hmethod, hplaced, Nat.le_trans (hle result hresult) hlast⟩

end Document

/-- A lowered document lists the types and methods of the document in their order, and everything in
a body can be read back. -/
theorem lower_reads_back {document : Document.Program} {program : Program Site}
    (hlower : document.lower = .ok program) :
    program.file = document.file ∧ program.types = unknownType :: document.types ∧
      program.methods.length = document.methods.length ∧
      ∀ (id : MethodId) source, document.methods[id]? = some source →
        ∃ method : Method Site, program.methods[id]? = some method ∧
          method.Keeps program document source := by
  obtain ⟨resolved, hresolve, rfl, hlast⟩ := Document.Program.lower_eq_ok_iff.mp hlower
  obtain ⟨_, _, methods, hmethods, rfl⟩ := Document.Program.resolve_eq_ok_iff.mp hresolve
  have hsignatures : (placeMethods methods 0).1.map (·.signature) =
      document.methods.map (·.effectiveSignature) := by
    rw [map_signature_placeMethods, map_signature_of_resolveMethods hmethods]
  refine ⟨rfl, rfl, ?_, ?_⟩
  · have hlength := congrArg List.length hsignatures
    rw [List.length_map, List.length_map] at hlength
    exact hlength
  · intro id source hsource
    obtain ⟨result, hresult, hmethod⟩ := getElem?_of_resolveMethods hmethods hsource
    obtain ⟨first, hplaced, hle⟩ := getElem?_placeMethods methods 0 id
    rw [hresult, Option.map_some] at hplaced
    have hend : (result.place first).2 ≤ maxPosition := Nat.le_trans (hle result hresult) hlast
    exact ⟨_, hplaced, keeps_of_resolve rfl hsignatures hmethod hend⟩

/-- The call by a bare name is read back with the signature that it stands for. -/
theorem lower_reads_back_branch : ∃ (program : Program Site) (method : Method Site)
    (body : Body Site), branchDocument.lower = .ok program ∧ program.methods[1]? = some method ∧
      method.body = some body ∧
      body.read (program.legend body) = some
        [.ifElse (.ident "source")
          [.declare "found" (some (.call "List.Get(int)"
            [(.ref, .ident "source"), (.value, .literal)] (some "Item")))]
          [.ret none],
         .ret (some (.ident "found"))] := by
  have hany : branchDocument.anyBody (fun _ _ => true) = true := by decide +kernel
  obtain ⟨program, _, hlower, _⟩ := Document.Program.exists_of_anyBody hany
  obtain ⟨_, _, _, hkeeps⟩ := lower_reads_back hlower
  obtain ⟨method, hmethod, hmethodKeeps⟩ := hkeeps 1 _ rfl
  obtain ⟨body, hbody, hbodyKeeps⟩ := hmethodKeeps.body_some _ rfl
  exact ⟨program, method, body, hlower, hmethod, hbody, hbodyKeeps.stmts⟩

end RefStability
