import RefStability.Document.Basic
import RefStability.Document.Record
import RefStability.Json.Reader

/-!
Reading program documents from JSON. Fields with a default may be left out, unknown fields are
skipped, and a known field may be given only once.
-/

namespace RefStability.Document

open Record

def TypeDecl.decode (json : Json) : Option TypeDecl := do
  match ← values? ["name", "dyn_sized"] json with
  | [name, isResizable] =>
    return { name := ← required Json.text? name, isResizable := ← orElse false Json.bool? isResizable }
  | _ => none

def Param.decode (json : Json) : Option Param := do
  match ← values? ["name", "ty", "by_ref"] json with
  | [name, ty, byRef] =>
    return { name := ← required Json.text? name, ty := ← optional Json.text? ty,
             byRef := ← orElse false Json.bool? byRef }
  | _ => none

def Local.decode (json : Json) : Option Local := do
  match ← values? ["name", "ty", "kind"] json with
  | [name, ty, kind] =>
    return { name := ← required Json.text? name, ty := ← optional Json.text? ty,
             kind := ← orElse .value (choice? false LocalKind.names) kind }
  | _ => none

inductive ExprTag where
  | literal | ident | field | index | slice | scopeValue | call | computed
deriving DecidableEq, Repr

def ExprTag.names : List (String × ExprTag) :=
  [("literal", .literal), ("name", .ident), ("field", .field), ("index", .index),
   ("slice", .slice), ("scope_value", .scopeValue), ("call", .call), ("opaque", .computed)]

def ExprTag.fields : ExprTag → List String
  | .literal => []
  | .ident => ["name"]
  | .field => ["receiver", "name", "ty"]
  | .index => ["receiver", "index", "ty"]
  | .slice => ["receiver", "range", "ty"]
  | .scopeValue => ["scope", "ty"]
  | .call => ["method", "args", "ty"]
  | .computed => ["operands", "ty"]

inductive StmtTag where
  | declare | rebind | assign | eval | ret | block | branch | loop | forEach
deriving DecidableEq, Repr

def StmtTag.names : List (String × StmtTag) :=
  [("let", .declare), ("ref_assign", .rebind), ("assign", .assign), ("expr", .eval),
   ("return", .ret), ("block", .block), ("if", .branch), ("while", .loop),
   ("for_each", .forEach)]

def StmtTag.fields : StmtTag → List String
  | .declare => ["local", "init"]
  | .rebind => ["local", "value"]
  | .assign => ["target", "value"]
  | .eval => ["expr"]
  | .ret => ["value"]
  | .block => ["stmts"]
  | .branch => ["cond", "then", "otherwise"]
  | .loop => ["cond", "body"]
  | .forEach => ["item", "collection", "body"]

def decodeArgument (decodeExpr : Json → Option Expr) (json : Json) : Option (PassMode × Expr) := do
  match ← values? ["expr", "mode"] json with
  | [expr, mode] =>
    let expr ← required decodeExpr expr
    let mode ← orElse .value (choice? true PassMode.names) mode
    return (mode, expr)
  | _ => none

/-- The expression with a tag and the values of its fields. -/
def Expr.ofFields (decode : Json → Option Expr) : ExprTag → List (Option Json) → Option Expr
  | .literal, [] => some .literal
  | .ident, [name] => do return .ident (← required Json.text? name)
  | .field, [receiver, name, ty] => do
    let receiver ← optional decode receiver
    let name ← required Json.text? name
    let ty ← optional Json.text? ty
    match receiver with
    | none => return .staticField name ty
    | some receiver => return .field receiver name ty
  | .index, [receiver, operands, ty] => do
    return .index (← required decode receiver) (← orElse [] (Json.list? decode) operands)
      (← optional Json.text? ty)
  | .slice, [receiver, operands, ty] => do
    return .slice (← required decode receiver) (← orElse [] (Json.list? decode) operands)
      (← optional Json.text? ty)
  | .scopeValue, [scope, ty] => do
    return .scopeValue (← required decode scope) (← optional Json.text? ty)
  | .call, [method, args, ty] => do
    return .call (← required Json.text? method)
      (← orElse [] (Json.list? (decodeArgument decode)) args) (← optional Json.text? ty)
  | .computed, [operands, ty] => do
    return .computed (← orElse [] (Json.list? decode) operands) (← optional Json.text? ty)
  | _, _ => none

/-- Reads an expression that nests at most `room` records. -/
def Expr.decode : Nat → Json → Option Expr
  | 0, _ => none
  | room + 1, json => do
    let (tag, values) ← variant? "expr" true ExprTag.names ExprTag.fields json
    Expr.ofFields (Expr.decode room) tag values

/-- The statement with a tag and the values of its fields. -/
def Stmt.ofFields (decodeExpr : Json → Option Expr) (decodeBody : Json → Option (List Stmt)) :
    StmtTag → List (Option Json) → Option Stmt
  | .declare, [target, init] => do
    return .declare (← required Json.text? target) (← optional decodeExpr init)
  | .rebind, [target, value] => do
    return .rebind (← required Json.text? target) (← required decodeExpr value)
  | .assign, [target, value] => do
    return .assign (← required decodeExpr target) (← required decodeExpr value)
  | .eval, [value] => do return .eval (← required decodeExpr value)
  | .ret, [value] => do return .ret (← optional decodeExpr value)
  | .block, [body] => do return .block (← required decodeBody body)
  | .branch, [condition, thenBody, elseBody] => do
    let condition ← required decodeExpr condition
    let thenBody ← required decodeBody thenBody
    match ← optional decodeBody elseBody with
    | none => return .ifThen condition thenBody
    | some elseBody => return .ifElse condition thenBody elseBody
  | .loop, [condition, body] => do
    return .loop (← required decodeExpr condition) (← required decodeBody body)
  | .forEach, [item, collection, body] => do
    return .forEach (← required Json.text? item) (← required decodeExpr collection)
      (← required decodeBody body)
  | _, _ => none

/-- Reads a statement that nests at most `room` records. -/
def Stmt.decode (isNested : Bool) : Nat → Json → Option Stmt
  | 0, _ => none
  | room + 1, json => do
    let (tag, values) ← variant? "stmt" isNested StmtTag.names StmtTag.fields json
    Stmt.ofFields (Expr.decode room) (Json.list? (Stmt.decode true room)) tag values

/-- Reads a statement of a body. All of it must be readable, skipped fields included. -/
def Stmt.decodeOutermost (room : Nat) (json : Json) : Option Stmt :=
  if json.isReadable && json.depth ≤ room then Stmt.decode false room json else none

def Method.decode (room : Nat) (json : Json) : Option Method := do
  match ← values? ["name", "signature", "params", "kind", "path", "returns_ref", "locals", "body"]
      json with
  | [name, signature, params, kind, path, returnsRef, locals, body] =>
    return {
      name := ← required Json.text? name
      signature := ← optional Json.text? signature
      params := ← orElse [] (Json.list? Param.decode) params
      kind := ← orElse .plain (choice? false MethodKind.names) kind
      path := ← optional (Json.list? Json.text?) path
      returnsRef := ← orElse false Json.bool? returnsRef
      locals := ← orElse [] (Json.list? Local.decode) locals
      body := ← optional (Json.list? (Stmt.decodeOutermost room)) body }
  | _ => none

/-- The containers around a statement of a body: the document, its methods, one method, its body. -/
def levelsAroundStmt : Nat := 4

/-- Reads a document whose statements reach down to at most the given nesting level. -/
def Program.decode (levels : Nat) (json : Json) : Option Program := do
  match ← values? ["file", "types", "methods"] json with
  | [file, types, methods] =>
    return {
      file := ← orElse 0 (Json.natBelow? (Nat.pow 2 32)) file
      types := ← orElse [] (Json.list? TypeDecl.decode) types
      methods := ← orElse [] (Json.list? (Method.decode (levels - levelsAroundStmt))) methods }
  | _ => none

def Program.ofJson? (json : Json) : Option Program := Program.decode json.depth json

def Program.parse? (text : String) : Option Program :=
  Json.scan? text >>= Program.decode Json.maxDepth

end RefStability.Document
