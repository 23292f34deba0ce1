/-!
Program documents: types, methods and their bodies as trees that refer to everything by name.
-/

namespace RefStability

/-- What is known of a method's result: an element of the first argument's storage, a view of it, a
part of a view, or nothing. -/
inductive MethodKind where
  | elementAccessor
  | viewConversion
  | slice
  | plain
deriving DecidableEq, Repr

/-- A local holds a value, a reference, or a handle that gives access to a value for a while. -/
inductive LocalKind where
  | value
  | ref
  | scopeHandle
deriving DecidableEq, Repr

/-- How an argument is passed; the callee assigns what is passed `out`. -/
inductive PassMode where
  | value
  | ref
  | out
deriving DecidableEq, Repr

def MethodKind.names : List (String × MethodKind) :=
  [("element_accessor", .elementAccessor), ("view_conversion", .viewConversion),
   ("slice", .slice), ("opaque", .plain)]

def LocalKind.names : List (String × LocalKind) :=
  [("value", .value), ("ref", .ref), ("scope_handle", .scopeHandle)]

def PassMode.names : List (String × PassMode) :=
  [("value", .value), ("ref", .ref), ("out", .out)]

def MethodKind.name : MethodKind → String
  | .elementAccessor => "element_accessor"
  | .viewConversion => "view_conversion"
  | .slice => "slice"
  | .plain => "opaque"

def LocalKind.name : LocalKind → String
  | .value => "value"
  | .ref => "ref"
  | .scopeHandle => "scope_handle"

def PassMode.name : PassMode → String
  | .value => "value"
  | .ref => "ref"
  | .out => "out"

namespace Document

structure TypeDecl where
  name : String
  isResizable : Bool
deriving DecidableEq, Repr

structure Param where
  name : String
  ty : Option String
  byRef : Bool
deriving DecidableEq, Repr

structure Local where
  name : String
  ty : Option String
  kind : LocalKind
deriving DecidableEq, Repr

/-- A `computed` expression is one whose result is not traced. -/
inductive Expr where
  | literal
  | ident (name : String)
  | staticField (name : String) (ty : Option String)
  | field (receiver : Expr) (name : String) (ty : Option String)
  | index (receiver : Expr) (operands : List Expr) (ty : Option String)
  | slice (receiver : Expr) (operands : List Expr) (ty : Option String)
  | scopeValue (scope : Expr) (ty : Option String)
  | call (method : String) (args : List (PassMode × Expr)) (ty : Option String)
  | computed (operands : List Expr) (ty : Option String)
deriving Repr, Inhabited

inductive Stmt where
  | declare (target : String) (init : Option Expr)
  | rebind (target : String) (value : Expr)
  | assign (target value : Expr)
  | eval (value : Expr)
  | ret (value : Option Expr)
  | block (body : List Stmt)
  | ifThen (condition : Expr) (thenBody : List Stmt)
  | ifElse (condition : Expr) (thenBody elseBody : List Stmt)
  | loop (condition : Expr) (body : List Stmt)
  | forEach (item : String) (collection : Expr) (body : List Stmt)
deriving Repr, Inhabited

structure Method where
  name : String
  signature : Option String
  params : List Param
  kind : MethodKind
  path : Option (List String)
  returnsRef : Bool
  locals : List Local
  body : Option (List Stmt)
deriving Repr

/-- A method without a signature of its own is known by its name. -/
def Method.effectiveSignature (method : Method) : String := method.signature.getD method.name

structure Program where
  file : Nat
  types : List TypeDecl
  methods : List Method
deriving Repr

end Document

end RefStability
