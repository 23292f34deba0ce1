import RefStability.Proofs.ReadBack

/-!
# The numbers in a body are in range

A lowered body refers to everything by number: to types, methods, parameters and locals, and to the
expressions and statements that a node consists of. Since such a body can be read back, each of
these numbers leads to what it stands for.
-/

namespace RefStability

/-! ### Nodes by number -/

inductive NodeId where
  | stmt (index : Nat)
  | expr (index : Nat)
deriving DecidableEq, Repr

def Node.id : Node Site → NodeId
  | .stmt value => .stmt value.label.index
  | .expr value => .expr value.label.index

def Body.node? (body : Body Site) : NodeId → Option (Node Site)
  | .stmt index => (body.stmts[index]?).map .stmt
  | .expr index => (body.exprs[index]?).map .expr

namespace Body.InSourceOrder

variable {body : Body Site} (horder : body.InSourceOrder)
include horder

theorem getElem?_exprs {expr : Expr Site} (hexpr : Node.expr expr ∈ body.nodes) :
    body.exprs[expr.label.index]? = some expr :=
  getElem?_of_numbered horder.exprs_numbered ((body.mem_exprs_iff expr).mpr hexpr)

theorem getElem?_stmts {stmt : Stmt Site} (hstmt : Node.stmt stmt ∈ body.nodes) :
    body.stmts[stmt.label.index]? = some stmt :=
  getElem?_of_numbered horder.stmts_numbered ((body.mem_stmts_iff stmt).mpr (.inr hstmt))

theorem node?_id {node : Node Site} (hnode : node ∈ body.nodes) :
    body.node? node.id = some node := by
  cases node with
  | stmt stmt => rw [Node.id, node?, horder.getElem?_stmts hnode, Option.map_some]
  | expr expr => rw [Node.id, node?, horder.getElem?_exprs hnode, Option.map_some]

end Body.InSourceOrder

/-! ### Numbers of other things -/

section Ranges

variable (program : Program Site) (body : Body Site)

/-- What an expression refers to by number, its parts apart, is there. -/
def Expr.InRange : Expr Site → Prop
  | .literal _ => True
  | .localVar _ target => target < body.locals.length
  | .param _ target => target < body.params.length
  | .staticField _ _ ty => ty < program.types.length
  | .field _ _ _ ty => ty < program.types.length
  | .index _ _ _ ty => ty < program.types.length
  | .slice _ _ _ ty => ty < program.types.length
  | .scopeValue _ _ ty => ty < program.types.length
  | .call _ id _ ty => id < program.methods.length ∧ ty < program.types.length
  | .computed _ _ ty => ty < program.types.length

def Stmt.InRange : Stmt Site → Prop
  | .declare _ target _ => target < body.locals.length
  | .rebind _ target _ => target < body.locals.length
  | .forEach _ target _ _ => target < body.locals.length
  | _ => True

def Node.InRange : Node Site → Prop
  | .stmt value => value.InRange body
  | .expr value => value.InRange program body

/-- Every number that the body holds leads to what it stands for. -/
structure Body.Grounded : Prop where
  method : (program.methods[body.method]?).bind (·.body) = some body
  params : ∀ param ∈ body.params, param.ty < program.types.length
  locals : ∀ declared ∈ body.locals, declared.ty < program.types.length
  root : body.stmts[body.root.label.index]? = some body.root.toStmt
  parts : ∀ node ∈ body.nodes, ∀ part ∈ node.parts, body.node? part.id = some part
  inRange : ∀ node ∈ body.nodes, node.InRange program body

end Ranges

/-! ### What can be read is in range -/

theorem isSome_of_mapM {α β : Type} {read : α → Option β} {items : List α} {found : List β}
    (hread : items.mapM read = some found) : ∀ item ∈ items, (read item).isSome = true := by
  induction items generalizing found with
  | nil => simp
  | cons first rest ih =>
      rw [List.mapM_cons] at hread
      obtain ⟨value, hvalue, hrest⟩ := Option.bind_eq_some_iff.mp hread
      obtain ⟨values, hvalues, _⟩ := Option.bind_eq_some_iff.mp hrest
      intro item hitem
      rcases List.mem_cons.mp hitem with rfl | hitem
      · rw [hvalue, Option.isSome_some]
      · exact ih hvalues item hitem

section Reading

variable {program : Program Site} {body : Body Site} (htypes : 0 < program.types.length)

theorem lt_of_getElem?_map {α : Type} {values : List α} {view : α → String} {index : Nat}
    {text : String} (hfound : (values.map view)[index]? = some text) : index < values.length := by
  obtain ⟨hlt, _⟩ := List.getElem?_eq_some_iff.mp hfound
  rwa [List.length_map] at hlt

include htypes in
theorem lt_of_type? {ty : TypeId} {found : Option String}
    (hfound : (program.legend body).type? ty = some found) : ty < program.types.length := by
  cases ty with
  | zero => exact htypes
  | succ ty =>
      obtain ⟨text, htext, _⟩ := Option.map_eq_some_iff.mp hfound
      exact lt_of_getElem?_map htext

theorem lt_of_local? {target : LocalId} {name : String}
    (hfound : (program.legend body).name? (.localVar target) = some name) :
    target < body.locals.length :=
  lt_of_getElem?_map hfound

include htypes in
theorem Expr.inRange_of_read {expr : Expr Site} {read : Expr Site → Option Document.Expr}
    {found : Document.Expr} (hread : (program.legend body).expr? read expr = some found) :
    expr.InRange program body ∧ ∀ part ∈ expr.parts, (read part).isSome = true := by
  have htype := @lt_of_type? program body htypes
  cases expr with
  | literal label => exact ⟨trivial, by simp [Expr.parts]⟩
  | localVar label target =>
      obtain ⟨name, hname, _⟩ := Option.bind_eq_some_iff.mp hread
      exact ⟨lt_of_local? hname, by simp [Expr.parts]⟩
  | param label target =>
      obtain ⟨name, hname, _⟩ := Option.bind_eq_some_iff.mp hread
      exact ⟨lt_of_getElem?_map hname, by simp [Expr.parts]⟩
  | staticField label name ty =>
      obtain ⟨type, hty, _⟩ := Option.bind_eq_some_iff.mp hread
      exact ⟨htype hty, by simp [Expr.parts]⟩
  | field label receiver name ty =>
      obtain ⟨inner, hinner, hread⟩ := Option.bind_eq_some_iff.mp hread
      obtain ⟨type, hty, _⟩ := Option.bind_eq_some_iff.mp hread
      exact ⟨htype hty, by simp [Expr.parts, hinner]⟩
  | index label receiver operands ty | slice label receiver operands ty =>
      obtain ⟨inner, hinner, hread⟩ := Option.bind_eq_some_iff.mp hread
      obtain ⟨others, hothers, hread⟩ := Option.bind_eq_some_iff.mp hread
      obtain ⟨type, hty, _⟩ := Option.bind_eq_some_iff.mp hread
      refine ⟨htype hty, List.forall_mem_cons.mpr ⟨by rw [hinner, Option.isSome_some], ?_⟩⟩
      exact isSome_of_mapM hothers
  | scopeValue label scope ty =>
      obtain ⟨inner, hinner, hread⟩ := Option.bind_eq_some_iff.mp hread
      obtain ⟨type, hty, _⟩ := Option.bind_eq_some_iff.mp hread
      exact ⟨htype hty, by simp [Expr.parts, hinner]⟩
  | call label id args ty =>
      obtain ⟨signature, hsignature, hread⟩ := Option.bind_eq_some_iff.mp hread
      obtain ⟨others, hothers, hread⟩ := Option.bind_eq_some_iff.mp hread
      obtain ⟨type, hty, _⟩ := Option.bind_eq_some_iff.mp hread
      refine ⟨⟨lt_of_getElem?_map hsignature, htype hty⟩, ?_⟩
      intro part hpart
      obtain ⟨argument, hargument, rfl⟩ := List.mem_map.mp hpart
      have hsome := isSome_of_mapM hothers argument hargument
      rwa [Option.isSome_map] at hsome
  | computed label operands ty =>
      obtain ⟨others, hothers, hread⟩ := Option.bind_eq_some_iff.mp hread
      obtain ⟨type, hty, _⟩ := Option.bind_eq_some_iff.mp hread
      exact ⟨htype hty, isSome_of_mapM hothers⟩

omit htypes in
theorem isSome_of_block? {block : Block Site (Stmt Site)}
    {readStmt : Stmt Site → Option Document.Stmt} {found : List Document.Stmt}
    (hread : Legend.block? readStmt block = some found) :
    (readStmt block.toStmt).isSome = true := by
  obtain ⟨stmt, hstmt, _⟩ := Option.bind_eq_some_iff.mp hread
  rw [hstmt, Option.isSome_some]

theorem isSome_of_option_mapM {α β : Type} {read : α → Option β} {item : α} {found : Option β}
    (hread : (some item).mapM read = some found) : (read item).isSome = true := by
  obtain ⟨value, hvalue, _⟩ := Option.map_eq_some_iff.mp hread
  rw [hvalue, Option.isSome_some]

theorem Stmt.inRange_of_read {stmt : Stmt Site} {read : Expr Site → Option Document.Expr}
    {readStmt : Stmt Site → Option Document.Stmt} {found : Document.Stmt}
    (hread : (program.legend body).stmt? read readStmt stmt = some found) :
    stmt.InRange body ∧ (∀ part, Node.expr part ∈ stmt.parts → (read part).isSome = true) ∧
      ∀ part, Node.stmt part ∈ stmt.parts → (readStmt part).isSome = true := by
  cases stmt with
  | declare label target init =>
      obtain ⟨name, hname, hread⟩ := Option.bind_eq_some_iff.mp hread
      obtain ⟨others, hothers, _⟩ := Option.bind_eq_some_iff.mp hread
      refine ⟨lt_of_local? hname, ?_⟩
      cases init with
      | none => simp [Stmt.parts]
      | some init => simp [Stmt.parts, isSome_of_option_mapM hothers]
  | rebind label target value =>
      obtain ⟨name, hname, hread⟩ := Option.bind_eq_some_iff.mp hread
      obtain ⟨inner, hinner, _⟩ := Option.bind_eq_some_iff.mp hread
      exact ⟨lt_of_local? hname, by simp [Stmt.parts, hinner]⟩
  | assign label target value =>
      obtain ⟨left, hleft, hread⟩ := Option.bind_eq_some_iff.mp hread
      obtain ⟨right, hright, _⟩ := Option.bind_eq_some_iff.mp hread
      exact ⟨trivial, by simp [Stmt.parts, hleft, hright]⟩
  | eval label value =>
      obtain ⟨inner, hinner, _⟩ := Option.bind_eq_some_iff.mp hread
      exact ⟨trivial, by simp [Stmt.parts, hinner]⟩
  | ret label value =>
      obtain ⟨others, hothers, _⟩ := Option.bind_eq_some_iff.mp hread
      refine ⟨trivial, ?_⟩
      cases value with
      | none => simp [Stmt.parts]
      | some value => simp [Stmt.parts, isSome_of_option_mapM hothers]
  | block label stmts =>
      obtain ⟨others, hothers, _⟩ := Option.bind_eq_some_iff.mp hread
      refine ⟨trivial, by simp [Stmt.parts], ?_⟩
      intro part hpart
      exact isSome_of_mapM hothers part (by simpa [Stmt.parts] using hpart)
  | ifThen label condition thenBody =>
      obtain ⟨inner, hinner, hread⟩ := Option.bind_eq_some_iff.mp hread
      obtain ⟨thenStmts, hthen, _⟩ := Option.bind_eq_some_iff.mp hread
      exact ⟨trivial, by simp [Stmt.parts, hinner, isSome_of_block? hthen]⟩
  | ifElse label condition thenBody elseBody =>
      obtain ⟨inner, hinner, hread⟩ := Option.bind_eq_some_iff.mp hread
      obtain ⟨thenStmts, hthen, hread⟩ := Option.bind_eq_some_iff.mp hread
      obtain ⟨elseStmts, helse, _⟩ := Option.bind_eq_some_iff.mp hread
      exact ⟨trivial, by
        simp [Stmt.parts, hinner, isSome_of_block? hthen, isSome_of_block? helse]⟩
  | loop label condition loopBody =>
      obtain ⟨inner, hinner, hread⟩ := Option.bind_eq_some_iff.mp hread
      obtain ⟨stmts, hstmts, _⟩ := Option.bind_eq_some_iff.mp hread
      exact ⟨trivial, by simp [Stmt.parts, hinner, isSome_of_block? hstmts]⟩
  | forEach label target collection loopBody =>
      obtain ⟨name, hname, hread⟩ := Option.bind_eq_some_iff.mp hread
      obtain ⟨inner, hinner, hread⟩ := Option.bind_eq_some_iff.mp hread
      obtain ⟨stmts, hstmts, _⟩ := Option.bind_eq_some_iff.mp hread
      exact ⟨lt_of_local? hname, by simp [Stmt.parts, hinner, isSome_of_block? hstmts]⟩

end Reading

/-! ### Lowered bodies -/

/-- The node can be read by its number. -/
def Body.IsRead (body : Body Site) (legend : Legend) : Node Site → Prop
  | .stmt stmt => (body.readStmt legend stmt.label.index).isSome = true
  | .expr expr => (body.readExpr legend expr.label.index).isSome = true

namespace Body.InSourceOrder

variable {program : Program Site} {body : Body Site}

theorem inRange_of_isRead (horder : body.InSourceOrder) (htypes : 0 < program.types.length)
    {node : Node Site} (hnode : node ∈ body.nodes)
    (hread : body.IsRead (program.legend body) node) :
    node.InRange program body ∧
      ∀ part ∈ node.parts, body.IsRead (program.legend body) part := by
  cases node with
  | expr expr =>
      obtain ⟨found, hfound⟩ := Option.isSome_iff_exists.mp hread
      rw [horder.readExpr_eq _ hnode] at hfound
      obtain ⟨hrange, hparts⟩ := Expr.inRange_of_read htypes hfound
      refine ⟨hrange, ?_⟩
      intro part hpart
      obtain ⟨inner, hinner, rfl⟩ := List.mem_map.mp hpart
      exact hparts inner hinner
  | stmt stmt =>
      obtain ⟨found, hfound⟩ := Option.isSome_iff_exists.mp hread
      rw [horder.readStmt_eq _ hnode] at hfound
      obtain ⟨hrange, hexprs, hstmts⟩ := Stmt.inRange_of_read hfound
      refine ⟨hrange, ?_⟩
      intro part hpart
      cases part with
      | expr inner => exact hexprs inner hpart
      | stmt inner => exact hstmts inner hpart

/-- All that is below a node that can be read is in range. -/
theorem below_inRange (horder : body.InSourceOrder) (htypes : 0 < program.types.length)
    (node : Node Site) (hnode : node ∈ body.nodes)
    (hread : body.IsRead (program.legend body) node) :
    ∀ below ∈ node.nodes, below.InRange program body := by
  induction node using Node.induction with
  | step node ih =>
      obtain ⟨hrange, hparts⟩ := horder.inRange_of_isRead htypes hnode hread
      intro below hbelow
      rw [Node.nodes_eq, List.mem_cons, List.mem_flatMap] at hbelow
      rcases hbelow with rfl | ⟨part, hpart, hbelow⟩
      · exact hrange
      · exact ih part hpart (Body.mem_nodes_of_part hnode hpart) (hparts part hpart) below hbelow

end Body.InSourceOrder

/-- A body that can be read back is grounded. -/
theorem Body.Keeps.grounded {body : Body Site} {program : Program Site}
    {document : Document.Program} {source : Document.Method} {stmts : List Document.Stmt}
    (hkeeps : body.Keeps program document source stmts) (horder : body.InSourceOrder)
    (htypes : 0 < program.types.length)
    (hmethod : (program.methods[body.method]?).bind (·.body) = some body) :
    body.Grounded program where
  method := hmethod
  params := by
    intro param hparam
    have hmem : (program.legend body).param? param ∈ source.params.map some :=
      hkeeps.params ▸ List.mem_map_of_mem hparam
    obtain ⟨found, _, hfound⟩ := List.mem_map.mp hmem
    obtain ⟨type, htype, _⟩ := Option.bind_eq_some_iff.mp hfound.symm
    exact lt_of_type? htypes htype
  locals := by
    intro declared hdeclared
    have hmem : (program.legend body).local? declared ∈ source.locals.map some :=
      hkeeps.locals ▸ List.mem_map_of_mem hdeclared
    obtain ⟨found, _, hfound⟩ := List.mem_map.mp hmem
    obtain ⟨type, htype, _⟩ := Option.bind_eq_some_iff.mp hfound.symm
    exact lt_of_type? htypes htype
  root := horder.getElem?_stmts body.root_mem_nodes
  parts := fun node hnode part hpart => horder.node?_id (Body.mem_nodes_of_part hnode hpart)
  inRange := by
    intro node hnode
    rw [Body.nodes, Stmt.nodesBlock_eq] at hnode
    exact horder.below_inRange htypes (.stmt body.root.toStmt) body.root_mem_nodes
      (isSome_of_block? hkeeps.stmts) node hnode

/-- Every body of a lowered document is grounded, and knows the method it belongs to. -/
theorem Document.Program.grounded_of_lower {document : Document.Program}
    {program : RefStability.Program Site} (hlower : document.lower = .ok program)
    {id : MethodId} {method : RefStability.Method Site} {body : Body Site}
    (hmethod : program.methods[id]? = some method) (hbody : method.body = some body) :
    body.method = id ∧ body.InSourceOrder ∧ body.Grounded program := by
  have hheaders := Program.headers_of_lower hlower
  have htypes : program.types = unknownType :: document.types :=
    (congrArg RefStability.Program.types hheaders :)
  have hmethods : program.methods.map Method.header = document.methods.map (·.withBody none) :=
    (congrArg RefStability.Program.methods hheaders :)
  have hsignatures : program.methods.map (·.signature) =
      document.methods.map (·.effectiveSignature) := by
    have hmap := congrArg (List.map (·.signature)) hmethods
    rwa [List.map_map, List.map_map] at hmap
  cases hsource : document.methods[id]? with
  | none =>
      rw [Program.methods_none_of_lower hlower hsource] at hmethod
      cases hmethod
  | some source =>
      obtain ⟨result, start, hresult, hplaced, hlast⟩ :=
        Program.exists_method_of_lower hlower hsource
      obtain rfl := Option.some.inj (hplaced.symm.trans hmethod)
      rw [Method.body_place] at hbody
      obtain ⟨resolved, hresolved, rfl⟩ := Option.map_eq_some_iff.mp hbody
      have hend : (resolved.place start).2 ≤ maxPosition := by
        simpa only [Method.place, hresolved] using hlast
      obtain ⟨_, rfl⟩ | ⟨stmts, other, _, hother, rfl⟩ := Method.resolve_eq_ok_iff.mp hresult
      · cases hresolved
      · obtain rfl := Option.some.inj hresolved
        have hid : (other.place start).1.method = id := by
          simp only [Method.resolveBody, bind_eq_ok_iff, pure_eq_ok_iff] at hother
          obtain ⟨_, _, _, _, _, _, rfl⟩ := hother
          rfl
        have horder := other.place_inSourceOrder start hend
        have hkeeps := keeps_of_resolveBody htypes hsignatures hother hend
        refine ⟨hid, horder, hkeeps.grounded horder (by simp [htypes]) ?_⟩
        rw [hid, hplaced]
        rfl

end RefStability
