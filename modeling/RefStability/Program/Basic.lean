import RefStability.Document.Basic
import RefStability.Span

/-!
Programs whose names are resolved: types, methods, parameters and locals are referred to by number.
Every node carries a label; in a placed program that is a `Site`.
-/

namespace RefStability

abbrev TypeId := Nat

abbrev MethodId := Nat

abbrev ParamId := Nat

abbrev LocalId := Nat

/-- The number of a node among those of its kind, and its span. -/
structure Site where
  index : Nat
  span : Span
deriving DecidableEq, Repr

inductive Expr (Label : Type) where
  | literal (label : Label)
  | localVar (label : Label) (target : LocalId)
  | param (label : Label) (target : ParamId)
  | staticField (label : Label) (name : String) (ty : TypeId)
  | field (label : Label) (receiver : Expr Label) (name : String) (ty : TypeId)
  | index (label : Label) (receiver : Expr Label) (operands : List (Expr Label)) (ty : TypeId)
  | slice (label : Label) (receiver : Expr Label) (operands : List (Expr Label)) (ty : TypeId)
  | scopeValue (label : Label) (scope : Expr Label) (ty : TypeId)
  | call (label : Label) (method : MethodId) (args : List (PassMode × Expr Label)) (ty : TypeId)
  | computed (label : Label) (operands : List (Expr Label)) (ty : TypeId)
deriving Repr

def Expr.label {Label : Type} : Expr Label → Label
  | .literal label => label
  | .localVar label _ => label
  | .param label _ => label
  | .staticField label _ _ => label
  | .field label _ _ _ => label
  | .index label _ _ _ => label
  | .slice label _ _ _ => label
  | .scopeValue label _ _ => label
  | .call label _ _ _ => label
  | .computed label _ _ => label

structure Block (Label Stmt : Type) where
  label : Label
  stmts : List Stmt
deriving Repr

inductive Stmt (Label : Type) where
  | declare (label : Label) (target : LocalId) (init : Option (Expr Label))
  | rebind (label : Label) (target : LocalId) (value : Expr Label)
  | assign (label : Label) (target value : Expr Label)
  | eval (label : Label) (value : Expr Label)
  | ret (label : Label) (value : Option (Expr Label))
  | block (label : Label) (stmts : List (Stmt Label))
  | ifThen (label : Label) (condition : Expr Label) (thenBody : Block Label (Stmt Label))
  | ifElse (label : Label) (condition : Expr Label)
      (thenBody elseBody : Block Label (Stmt Label))
  | loop (label : Label) (condition : Expr Label) (body : Block Label (Stmt Label))
  | forEach (label : Label) (item : LocalId) (collection : Expr Label)
      (body : Block Label (Stmt Label))
deriving Repr

def Stmt.label {Label : Type} : Stmt Label → Label
  | .declare label _ _ => label
  | .rebind label _ _ => label
  | .assign label _ _ => label
  | .eval label _ => label
  | .ret label _ => label
  | .block label _ => label
  | .ifThen label _ _ => label
  | .ifElse label _ _ _ => label
  | .loop label _ _ => label
  | .forEach label _ _ _ => label

def Block.toStmt {Label : Type} (block : Block Label (Stmt Label)) : Stmt Label :=
  .block block.label block.stmts

structure ParamDecl (Label : Type) where
  label : Label
  name : String
  ty : TypeId
  byRef : Bool
deriving DecidableEq, Repr

structure LocalDecl (Label : Type) where
  label : Label
  name : String
  ty : TypeId
  kind : LocalKind
deriving DecidableEq, Repr

structure Body (Label : Type) where
  method : MethodId
  file : Nat
  label : Label
  params : List (ParamDecl Label)
  locals : List (LocalDecl Label)
  root : Block Label (Stmt Label)
deriving Repr

structure Method (Label : Type) where
  name : String
  signature : String
  params : List String
  kind : MethodKind
  path : Option (List String)
  returnsRef : Bool
  body : Option (Body Label)
deriving Repr

/-- The type with number 0 stands for every type that a document leaves out. -/
def unknownType : Document.TypeDecl := ⟨"?", false⟩

structure Program (Label : Type) where
  file : Nat
  types : List Document.TypeDecl
  methods : List (Method Label)
deriving Repr

variable {Label : Type}

def LocalDecl.isRef (declared : LocalDecl Label) : Bool := declared.kind == .ref

def Program.isResizable (program : Program Label) (ty : TypeId) : Bool :=
  (program.types[ty]?).any (·.isResizable)

/-- The first method with the given signature, or else with the given name. -/
def Program.methodNamed? (program : Program Label) (text : String) : Option MethodId :=
  (program.methods.findIdx? fun method => method.signature == text).or
    (program.methods.findIdx? fun method => method.name == text)

def Program.bodyNamed? (program : Program Label) (text : String) : Option (Body Label) := do
  let method ← program.methods[← program.methodNamed? text]?
  method.body

def Program.bodies (program : Program Label) : List (Body Label) :=
  program.methods.filterMap (·.body)

def Body.localNamed? (body : Body Label) (name : String) : Option LocalId :=
  body.locals.findIdx? fun declared => declared.name == name

/-- The type of an expression; literals have none. -/
def Body.exprType? (body : Body Label) : Expr Label → Option TypeId
  | .literal _ => none
  | .localVar _ target => (body.locals[target]?).map (·.ty)
  | .param _ target => (body.params[target]?).map (·.ty)
  | .staticField _ _ ty => some ty
  | .field _ _ _ ty => some ty
  | .index _ _ _ ty => some ty
  | .slice _ _ _ ty => some ty
  | .scopeValue _ _ ty => some ty
  | .call _ _ _ ty => some ty
  | .computed _ _ ty => some ty

def Body.isRefLocal (body : Body Label) (target : LocalId) : Bool :=
  (body.locals[target]?).any (·.isRef)

def Expr.span (expr : Expr Site) : Span := expr.label.span

def Stmt.span (stmt : Stmt Site) : Span := stmt.label.span

def Body.locate (body : Body Site) (span : Span) : Location := ⟨body.file, span⟩

def Method.location (method : Method Site) : Location :=
  match method.body with
  | some body => body.locate body.label.span
  | none => .unknown

end RefStability
