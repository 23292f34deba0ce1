import RefStability.Proofs.SourceOrder

/-!
# Reading a body by its numbers

A lowered body refers to everything by number. Reading looks up the expression or statement with a
given number and goes on with the numbers of its parts; a legend turns the other numbers into names.
In a body in source order every number leads to the node that has it.
-/

namespace RefStability

variable {Label : Type}

/-! ### One node -/

/-- The names that the numbers in a body stand for. -/
structure Legend where
  types : List String
  signatures : List String
  params : List String
  locals : List String

namespace Legend

variable (legend : Legend)

/-- The number 0 stands for a type that is left out. -/
def type? : TypeId → Option (Option String)
  | 0 => some none
  | ty + 1 => (legend.types[ty + 1]?).map some

def name? : Variable → Option String
  | .localVar target => legend.locals[target]?
  | .param target => legend.params[target]?

def param? (param : ParamDecl Label) : Option Document.Param :=
  return ⟨param.name, ← legend.type? param.ty, param.byRef⟩

def local? (declared : LocalDecl Label) : Option Document.Local :=
  return ⟨declared.name, ← legend.type? declared.ty, declared.kind⟩

/-- How a document writes an expression, when `read` says how it writes the parts. -/
def expr? (read : Expr Label → Option Document.Expr) : Expr Label → Option Document.Expr
  | .literal _ => some .literal
  | .localVar _ target => return .ident (← legend.name? (.localVar target))
  | .param _ target => return .ident (← legend.name? (.param target))
  | .staticField _ name ty => return .staticField name (← legend.type? ty)
  | .field _ receiver name ty => return .field (← read receiver) name (← legend.type? ty)
  | .index _ receiver operands ty =>
    return .index (← read receiver) (← operands.mapM read) (← legend.type? ty)
  | .slice _ receiver operands ty =>
    return .slice (← read receiver) (← operands.mapM read) (← legend.type? ty)
  | .scopeValue _ scope ty => return .scopeValue (← read scope) (← legend.type? ty)
  | .call _ method args ty =>
    return .call (← legend.signatures[method]?)
      (← args.mapM fun arg => (read arg.2).map (arg.1, ·)) (← legend.type? ty)
  | .computed _ operands ty => return .computed (← operands.mapM read) (← legend.type? ty)

/-- The statements of a block. -/
def block? (read : Stmt Label → Option Document.Stmt) (block : Block Label (Stmt Label)) :
    Option (List Document.Stmt) := do
  match ← read block.toStmt with
  | .block body => some body
  | _ => none

/-- How a document writes a statement, when `read` and `readStmt` say how it writes the parts. -/
def stmt? (read : Expr Label → Option Document.Expr)
    (readStmt : Stmt Label → Option Document.Stmt) : Stmt Label → Option Document.Stmt
  | .declare _ target init => return .declare (← legend.name? (.localVar target)) (← init.mapM read)
  | .rebind _ target value => return .rebind (← legend.name? (.localVar target)) (← read value)
  | .assign _ target value => return .assign (← read target) (← read value)
  | .eval _ value => return .eval (← read value)
  | .ret _ value => return .ret (← value.mapM read)
  | .block _ stmts => return .block (← stmts.mapM readStmt)
  | .ifThen _ condition thenBody =>
    return .ifThen (← read condition) (← block? readStmt thenBody)
  | .ifElse _ condition thenBody elseBody =>
    return .ifElse (← read condition) (← block? readStmt thenBody) (← block? readStmt elseBody)
  | .loop _ condition body => return .loop (← read condition) (← block? readStmt body)
  | .forEach _ item collection body =>
    return .forEach (← legend.name? (.localVar item)) (← read collection) (← block? readStmt body)

end Legend

theorem mapM_congr {α β : Type} {read other : α → Option β} {items : List α}
    (hcongr : ∀ item ∈ items, read item = other item) : items.mapM read = items.mapM other := by
  induction items with
  | nil => rfl
  | cons item rest ih =>
      have hrest := ih fun later hlater => hcongr later (List.mem_cons_of_mem _ hlater)
      rw [List.mapM_cons, List.mapM_cons, hcongr item List.mem_cons_self, hrest]

namespace Legend

variable (legend : Legend) {read other : Expr Label → Option Document.Expr}
  {readStmt otherStmt : Stmt Label → Option Document.Stmt}

/-- Only how the parts are written matters. -/
theorem expr?_congr {expr : Expr Label} (hcongr : ∀ part ∈ expr.parts, read part = other part) :
    legend.expr? read expr = legend.expr? other expr := by
  cases expr with
  | literal | localVar | param | staticField => rfl
  | field _ receiver _ _ | scopeValue _ receiver _ =>
      have hreceiver := hcongr receiver List.mem_cons_self
      simp only [expr?, hreceiver]
  | index _ receiver operands _ | slice _ receiver operands _ =>
      have hreceiver := hcongr receiver List.mem_cons_self
      have hoperands : operands.mapM read = operands.mapM other :=
        mapM_congr fun operand hoperand => hcongr operand (List.mem_cons_of_mem _ hoperand)
      simp only [expr?, hreceiver, hoperands]
  | call _ _ args _ =>
      have hargs : args.mapM (fun arg => (read arg.2).map (arg.1, ·)) =
          args.mapM (fun arg => (other arg.2).map (arg.1, ·)) := by
        apply mapM_congr
        intro arg harg
        rw [hcongr arg.2 (List.mem_map_of_mem harg)]
      simp only [expr?, hargs]
  | computed _ operands _ =>
      have hoperands : operands.mapM read = operands.mapM other := mapM_congr hcongr
      simp only [expr?, hoperands]

theorem stmt?_congr {stmt : Stmt Label}
    (hexpr : ∀ part, Node.expr part ∈ stmt.parts → read part = other part)
    (hstmt : ∀ part, Node.stmt part ∈ stmt.parts → readStmt part = otherStmt part) :
    legend.stmt? read readStmt stmt = legend.stmt? other otherStmt stmt := by
  have hblock : ∀ block : Block Label (Stmt Label), Node.stmt block.toStmt ∈ stmt.parts →
      block? readStmt block = block? otherStmt block := by
    intro block hpart
    simp only [block?, hstmt _ hpart]
  cases stmt with
  | declare _ _ init =>
      cases init with
      | none => rfl
      | some init => simp [stmt?, hexpr init (by simp [Stmt.parts])]
  | rebind _ _ value => simp [stmt?, hexpr value (by simp [Stmt.parts])]
  | assign _ target value =>
      simp [stmt?, hexpr target (by simp [Stmt.parts]), hexpr value (by simp [Stmt.parts])]
  | eval _ value => simp [stmt?, hexpr value (by simp [Stmt.parts])]
  | ret _ value =>
      cases value with
      | none => rfl
      | some value => simp [stmt?, hexpr value (by simp [Stmt.parts])]
  | block _ stmts =>
      have hstmts : stmts.mapM readStmt = stmts.mapM otherStmt :=
        mapM_congr fun part hpart => hstmt part (List.mem_map_of_mem hpart)
      simp only [stmt?, hstmts]
  | ifThen _ condition thenBody =>
      simp only [stmt?, hexpr condition (by simp [Stmt.parts]),
        hblock thenBody (by simp [Stmt.parts])]
  | ifElse _ condition thenBody elseBody =>
      simp only [stmt?, hexpr condition (by simp [Stmt.parts]),
        hblock thenBody (by simp [Stmt.parts]), hblock elseBody (by simp [Stmt.parts])]
  | loop _ condition body =>
      simp only [stmt?, hexpr condition (by simp [Stmt.parts]),
        hblock body (by simp [Stmt.parts])]
  | forEach _ _ collection body =>
      simp only [stmt?, hexpr collection (by simp [Stmt.parts]),
        hblock body (by simp [Stmt.parts])]

end Legend

/-! ### Bodies -/

def Program.legend (program : Program Label) (body : Body Label) : Legend where
  types := program.types.map (·.name)
  signatures := program.methods.map (·.signature)
  params := body.params.map (·.name)
  locals := body.locals.map (·.name)

namespace Body

variable (body : Body Site) (legend : Legend)

/-- Reads an expression by its number, and its parts by theirs, which are smaller. -/
def readExpr (number : Nat) : Option Document.Expr := do
  legend.expr? (fun part =>
    if part.label.index < number then readExpr part.label.index else none) (← body.exprs[number]?)
termination_by number

def readStmt (number : Nat) : Option Document.Stmt := do
  legend.stmt? (fun expr => body.readExpr legend expr.label.index) (fun part =>
    if part.label.index < number then readStmt part.label.index else none) (← body.stmts[number]?)
termination_by number

/-- Reads a body from the number of its root on. -/
def read : Option (List Document.Stmt) :=
  Legend.block? (fun stmt => body.readStmt legend stmt.label.index) body.root

end Body


/-! ### Numbers lead to their nodes -/

theorem getElem?_of_numbered {α : Type} {items : List α} {number : α → Nat}
    (hnumbered : items.map number = List.range items.length) {item : α} (hitem : item ∈ items) :
    items[number item]? = some item := by
  obtain ⟨position, hposition⟩ := List.mem_iff_getElem?.mp hitem
  have hlt : position < items.length := (List.getElem?_eq_some_iff.mp hposition).1
  have hat : (items.map number)[position]? = some (number item) := by
    rw [List.getElem?_map, hposition, Option.map_some]
  rw [hnumbered, List.getElem?_range hlt] at hat
  rw [← Option.some.inj hat, hposition]

namespace Body.InSourceOrder

variable {body : Body Site} (legend : Legend)

theorem readExpr_eq (horder : body.InSourceOrder) {expr : Expr Site}
    (hexpr : Node.expr expr ∈ body.nodes) :
    body.readExpr legend expr.label.index =
      legend.expr? (fun part => body.readExpr legend part.label.index) expr := by
  have hmem := (body.mem_exprs_iff expr).mpr hexpr
  rw [Body.readExpr, getElem?_of_numbered horder.exprs_numbered hmem]
  apply legend.expr?_congr
  intro part hpart
  have hlt := horder.expr_after_parts expr hmem part (List.mem_map_of_mem hpart)
  exact if_pos hlt

theorem readStmt_eq (horder : body.InSourceOrder) {stmt : Stmt Site}
    (hstmt : Node.stmt stmt ∈ body.nodes) :
    body.readStmt legend stmt.label.index =
      legend.stmt? (fun part => body.readExpr legend part.label.index)
        (fun part => body.readStmt legend part.label.index) stmt := by
  have hmem := (body.mem_stmts_iff stmt).mpr (.inr hstmt)
  rw [Body.readStmt, getElem?_of_numbered horder.stmts_numbered hmem]
  apply legend.stmt?_congr
  · intro part _
    rfl
  · intro part hpart
    have hlt := horder.stmt_after_parts stmt hmem part hpart
    exact if_pos hlt

end Body.InSourceOrder

end RefStability
