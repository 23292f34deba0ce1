import RefStability.Program.Basic
import RefStability.SymbolTable

/-!
The nodes of a body as lists: in source order, each node before its parts, and in the order of their
numbers, each node after its parts.
-/

namespace RefStability

variable {Label : Type}

inductive Node (Label : Type) where
  | stmt (stmt : Stmt Label)
  | expr (expr : Expr Label)
deriving Repr

mutual

/-- An expression and its parts, each before its own parts. -/
def Expr.preorder : Expr Label → List (Expr Label)
  | .literal label => [.literal label]
  | .localVar label target => [.localVar label target]
  | .param label target => [.param label target]
  | .staticField label name ty => [.staticField label name ty]
  | .field label receiver name ty => .field label receiver name ty :: receiver.preorder
  | .index label receiver operands ty =>
    .index label receiver operands ty :: (receiver.preorder ++ Expr.preorderList operands)
  | .slice label receiver operands ty =>
    .slice label receiver operands ty :: (receiver.preorder ++ Expr.preorderList operands)
  | .scopeValue label scope ty => .scopeValue label scope ty :: scope.preorder
  | .call label method args ty => .call label method args ty :: Expr.preorderArgs args
  | .computed label operands ty => .computed label operands ty :: Expr.preorderList operands

def Expr.preorderList : List (Expr Label) → List (Expr Label)
  | [] => []
  | expr :: rest => expr.preorder ++ Expr.preorderList rest

def Expr.preorderArgs : List (PassMode × Expr Label) → List (Expr Label)
  | [] => []
  | (_, expr) :: rest => expr.preorder ++ Expr.preorderArgs rest

end

mutual

/-- An expression and its parts, each after its own parts. -/
def Expr.postorder : Expr Label → List (Expr Label)
  | .literal label => [.literal label]
  | .localVar label target => [.localVar label target]
  | .param label target => [.param label target]
  | .staticField label name ty => [.staticField label name ty]
  | .field label receiver name ty => receiver.postorder ++ [.field label receiver name ty]
  | .index label receiver operands ty =>
    receiver.postorder ++ Expr.postorderList operands ++ [.index label receiver operands ty]
  | .slice label receiver operands ty =>
    receiver.postorder ++ Expr.postorderList operands ++ [.slice label receiver operands ty]
  | .scopeValue label scope ty => scope.postorder ++ [.scopeValue label scope ty]
  | .call label method args ty => Expr.postorderArgs args ++ [.call label method args ty]
  | .computed label operands ty => Expr.postorderList operands ++ [.computed label operands ty]

def Expr.postorderList : List (Expr Label) → List (Expr Label)
  | [] => []
  | expr :: rest => expr.postorder ++ Expr.postorderList rest

def Expr.postorderArgs : List (PassMode × Expr Label) → List (Expr Label)
  | [] => []
  | (_, expr) :: rest => expr.postorder ++ Expr.postorderArgs rest

end

def Expr.nodes (expr : Expr Label) : List (Node Label) := expr.preorder.map .expr

mutual

/-- A statement and all its parts in source order, each before its own parts. -/
def Stmt.nodes : Stmt Label → List (Node Label)
  | .declare label target none => [.stmt (.declare label target none)]
  | .declare label target (some init) => .stmt (.declare label target (some init)) :: init.nodes
  | .rebind label target value => .stmt (.rebind label target value) :: value.nodes
  | .assign label target value =>
    .stmt (.assign label target value) :: (target.nodes ++ value.nodes)
  | .eval label value => .stmt (.eval label value) :: value.nodes
  | .ret label none => [.stmt (.ret label none)]
  | .ret label (some value) => .stmt (.ret label (some value)) :: value.nodes
  | .block label stmts => .stmt (.block label stmts) :: Stmt.nodesList stmts
  | .ifThen label condition thenBody =>
    .stmt (.ifThen label condition thenBody) ::
      (condition.nodes ++ Stmt.nodesBlock thenBody)
  | .ifElse label condition thenBody elseBody =>
    .stmt (.ifElse label condition thenBody elseBody) ::
      (condition.nodes ++ Stmt.nodesBlock thenBody ++ Stmt.nodesBlock elseBody)
  | .loop label condition body =>
    .stmt (.loop label condition body) :: (condition.nodes ++ Stmt.nodesBlock body)
  | .forEach label item collection body =>
    .stmt (.forEach label item collection body) ::
      (collection.nodes ++ Stmt.nodesBlock body)

def Stmt.nodesBlock : Block Label (Stmt Label) → List (Node Label)
  | ⟨label, stmts⟩ => .stmt (.block label stmts) :: Stmt.nodesList stmts

def Stmt.nodesList : List (Stmt Label) → List (Node Label)
  | [] => []
  | stmt :: rest => stmt.nodes ++ Stmt.nodesList rest

end

mutual

/-- The expressions of a statement, each after its own parts. -/
def Stmt.exprs : Stmt Label → List (Expr Label)
  | .declare _ _ none => []
  | .declare _ _ (some init) => init.postorder
  | .rebind _ _ value => value.postorder
  | .assign _ target value => target.postorder ++ value.postorder
  | .eval _ value => value.postorder
  | .ret _ none => []
  | .ret _ (some value) => value.postorder
  | .block _ stmts => Stmt.exprsList stmts
  | .ifThen _ condition thenBody => condition.postorder ++ Stmt.exprsBlock thenBody
  | .ifElse _ condition thenBody elseBody =>
    condition.postorder ++ Stmt.exprsBlock thenBody ++ Stmt.exprsBlock elseBody
  | .loop _ condition body => condition.postorder ++ Stmt.exprsBlock body
  | .forEach _ _ collection body => collection.postorder ++ Stmt.exprsBlock body

def Stmt.exprsBlock : Block Label (Stmt Label) → List (Expr Label)
  | ⟨_, stmts⟩ => Stmt.exprsList stmts

def Stmt.exprsList : List (Stmt Label) → List (Expr Label)
  | [] => []
  | stmt :: rest => stmt.exprs ++ Stmt.exprsList rest

end

mutual

/-- A statement and the statements in it, each after its own parts. -/
def Stmt.postorder : Stmt Label → List (Stmt Label)
  | .declare label target init => [.declare label target init]
  | .rebind label target value => [.rebind label target value]
  | .assign label target value => [.assign label target value]
  | .eval label value => [.eval label value]
  | .ret label value => [.ret label value]
  | .block label stmts => Stmt.postorderList stmts ++ [.block label stmts]
  | .ifThen label condition thenBody =>
    Stmt.postorderBlock thenBody ++ [.ifThen label condition thenBody]
  | .ifElse label condition thenBody elseBody =>
    Stmt.postorderBlock thenBody ++ Stmt.postorderBlock elseBody ++
      [.ifElse label condition thenBody elseBody]
  | .loop label condition body => Stmt.postorderBlock body ++ [.loop label condition body]
  | .forEach label item collection body =>
    Stmt.postorderBlock body ++ [.forEach label item collection body]

def Stmt.postorderBlock : Block Label (Stmt Label) → List (Stmt Label)
  | ⟨label, stmts⟩ => Stmt.postorderList stmts ++ [.block label stmts]

def Stmt.postorderList : List (Stmt Label) → List (Stmt Label)
  | [] => []
  | stmt :: rest => stmt.postorder ++ Stmt.postorderList rest

end

def Body.nodes (body : Body Label) : List (Node Label) := Stmt.nodesBlock body.root

/-- The expressions of a body in the order of their numbers. -/
def Body.exprs (body : Body Label) : List (Expr Label) := Stmt.exprsBlock body.root

/-- The empty block that every body starts from. -/
def Stmt.initial : Stmt Site := .block ⟨0, Span.point 0⟩ []

def Body.stmts (body : Body Site) : List (Stmt Site) :=
  Stmt.initial :: Stmt.postorderBlock body.root

def Body.stmtLocation (body : Body Site) (stmt : Stmt Site) : Location :=
  if stmt.label.index = 0 then .unknown else body.locate stmt.span

def Node.stmt? : Node Label → Option (Stmt Label)
  | .stmt value => some value
  | .expr _ => none

def Node.expr? : Node Label → Option (Expr Label)
  | .stmt _ => none
  | .expr value => some value

def Expr.fieldName? : Expr Label → Option String
  | .staticField _ name _ => some name
  | .field _ _ name _ => some name
  | _ => none

def Body.names (body : Body Label) : List String :=
  body.params.map (·.name) ++ body.locals.map (·.name) ++ body.exprs.filterMap Expr.fieldName?

def Program.names (program : Program Label) : List String :=
  program.types.map (·.name) ++
    program.methods.flatMap (fun method => method.params ++ [method.name]) ++
    program.bodies.flatMap Body.names

def Program.symbols (program : Program Label) : SymbolTable :=
  .ofTexts program.names

end RefStability
