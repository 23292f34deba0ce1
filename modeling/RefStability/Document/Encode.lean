import RefStability.Document.Basic
import RefStability.Json.Basic

/-!
Writing program documents as JSON, with every field present.
-/

namespace RefStability.Document

open Json (ofOption ofList)

def TypeDecl.toJson (type : TypeDecl) : Json :=
  .object [("name", .string type.name), ("dyn_sized", .bool type.isResizable)]

def Param.toJson (param : Param) : Json :=
  .object [("name", .string param.name), ("ty", ofOption .string param.ty),
    ("by_ref", .bool param.byRef)]

def Local.toJson (declared : Local) : Json :=
  .object [("name", .string declared.name), ("ty", ofOption .string declared.ty),
    ("kind", .string declared.kind.name)]

mutual

def Expr.toJson : Expr → Json
  | .literal => .object [("expr", .string "literal")]
  | .ident name => .object [("expr", .string "name"), ("name", .string name)]
  | .staticField name ty =>
    .object [("expr", .string "field"), ("receiver", .null), ("name", .string name),
      ("ty", ofOption .string ty)]
  | .field receiver name ty =>
    .object [("expr", .string "field"), ("receiver", receiver.toJson), ("name", .string name),
      ("ty", ofOption .string ty)]
  | .index receiver operands ty =>
    .object [("expr", .string "index"), ("receiver", receiver.toJson),
      ("index", .array (Expr.listToJson operands)), ("ty", ofOption .string ty)]
  | .slice receiver operands ty =>
    .object [("expr", .string "slice"), ("receiver", receiver.toJson),
      ("range", .array (Expr.listToJson operands)), ("ty", ofOption .string ty)]
  | .scopeValue scope ty =>
    .object [("expr", .string "scope_value"), ("scope", scope.toJson),
      ("ty", ofOption .string ty)]
  | .call method args ty =>
    .object [("expr", .string "call"), ("method", .string method),
      ("args", .array (Expr.argsToJson args)), ("ty", ofOption .string ty)]
  | .computed operands ty =>
    .object [("expr", .string "opaque"), ("operands", .array (Expr.listToJson operands)),
      ("ty", ofOption .string ty)]

def Expr.listToJson : List Expr → List Json
  | [] => []
  | expr :: rest => expr.toJson :: Expr.listToJson rest

def Expr.argsToJson : List (PassMode × Expr) → List Json
  | [] => []
  | (mode, expr) :: rest =>
    .object [("expr", expr.toJson), ("mode", .string mode.name)] :: Expr.argsToJson rest

end

mutual

def Stmt.toJson : Stmt → Json
  | .declare target init =>
    .object [("stmt", .string "let"), ("local", .string target),
      ("init", ofOption Expr.toJson init)]
  | .rebind target value =>
    .object [("stmt", .string "ref_assign"), ("local", .string target), ("value", value.toJson)]
  | .assign target value =>
    .object [("stmt", .string "assign"), ("target", target.toJson), ("value", value.toJson)]
  | .eval value => .object [("stmt", .string "expr"), ("expr", value.toJson)]
  | .ret value => .object [("stmt", .string "return"), ("value", ofOption Expr.toJson value)]
  | .block body => .object [("stmt", .string "block"), ("stmts", .array (Stmt.listToJson body))]
  | .ifThen condition thenBody =>
    .object [("stmt", .string "if"), ("cond", condition.toJson),
      ("then", .array (Stmt.listToJson thenBody)), ("otherwise", .null)]
  | .ifElse condition thenBody elseBody =>
    .object [("stmt", .string "if"), ("cond", condition.toJson),
      ("then", .array (Stmt.listToJson thenBody)),
      ("otherwise", .array (Stmt.listToJson elseBody))]
  | .loop condition body =>
    .object [("stmt", .string "while"), ("cond", condition.toJson),
      ("body", .array (Stmt.listToJson body))]
  | .forEach item collection body =>
    .object [("stmt", .string "for_each"), ("item", .string item),
      ("collection", collection.toJson), ("body", .array (Stmt.listToJson body))]

def Stmt.listToJson : List Stmt → List Json
  | [] => []
  | stmt :: rest => stmt.toJson :: Stmt.listToJson rest

end

def Method.toJson (method : Method) : Json :=
  .object [("name", .string method.name), ("signature", ofOption .string method.signature),
    ("params", ofList Param.toJson method.params), ("kind", .string method.kind.name),
    ("path", ofOption (ofList .string) method.path), ("returns_ref", .bool method.returnsRef),
    ("locals", ofList Local.toJson method.locals),
    ("body", ofOption (fun body => .array (Stmt.listToJson body)) method.body)]

def Program.toJson (program : Program) : Json :=
  .object [("file", .ofNat program.file), ("types", ofList TypeDecl.toJson program.types),
    ("methods", ofList Method.toJson program.methods)]

end RefStability.Document
