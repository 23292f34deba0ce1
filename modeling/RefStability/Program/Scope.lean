import RefStability.Program.Basic

/-!
Resolving the names of a document. What a name may stand for is a `Scope`; what goes wrong is a
`LowerError`.
-/

namespace RefStability

inductive LowerError where
  | unknownType (name : String)
  | unknownName (name method : String)
  | unknownMethod (name : String)
  | duplicateType (name : String)
  | duplicateMethod (signature : String)
  | duplicateName (name method : String)
  | outArgNotLocal (method : String)
  | notALocal (name method : String)
  | positionsExhausted
deriving DecidableEq, Repr

def LowerError.message : LowerError → String
  | .unknownType name => "unknown type `" ++ name ++ "`"
  | .unknownName name method => "unknown variable `" ++ name ++ "` in method `" ++ method ++ "`"
  | .unknownMethod name => "unknown method `" ++ name ++ "`"
  | .duplicateType name => "type `" ++ name ++ "` is declared more than once"
  | .duplicateMethod signature => "method `" ++ signature ++ "` is declared more than once"
  | .duplicateName name method =>
    "variable `" ++ name ++ "` is declared more than once in method `" ++ method ++ "`"
  | .outArgNotLocal method =>
    "out-argument in method `" ++ method ++ "` must name a local variable"
  | .notALocal name method =>
    "`" ++ name ++ "` in method `" ++ method ++ "` is not a local variable"
  | .positionsExhausted => "the program needs more source positions than there are"

structure Scope where
  types : List String
  methods : List Document.Method
  method : String
  params : List String
  locals : List String

inductive Variable where
  | localVar (target : LocalId)
  | param (target : ParamId)
deriving DecidableEq, Repr

/-- The number of a type; an absent one is unknown. -/
def typeId (types : List String) : Option String → Except LowerError TypeId
  | none => .ok 0
  | some name =>
    match types.idxOf? name with
    | some position => .ok (position + 1)
    | none => .error (.unknownType name)

namespace Scope

/-- The method with the given signature, or else the only one with the given name. -/
def methodId (scope : Scope) (text : String) : Except LowerError MethodId :=
  match scope.methods.findIdx? fun method => method.effectiveSignature == text with
  | some method => .ok method
  | none =>
    match scope.methods.zipIdx.filter fun (method, _) => method.name == text with
    | [(_, method)] => .ok method
    | _ => .error (.unknownMethod text)

def resolveVariable (scope : Scope) (name : String) : Except LowerError Variable :=
  match scope.params.idxOf? name, scope.locals.idxOf? name with
  | some target, _ => .ok (.param target)
  | none, some target => .ok (.localVar target)
  | none, none => .error (.unknownName name scope.method)

def resolveLocal (scope : Scope) (name : String) : Except LowerError LocalId :=
  match scope.resolveVariable name with
  | .ok (.localVar target) => .ok target
  | .ok (.param _) => .error (.notALocal name scope.method)
  | .error error => .error error

/-- Only a local can be assigned by a callee. -/
def checkArgument (scope : Scope) (mode : PassMode) (expr : Expr Unit) :
    Except LowerError (PassMode × Expr Unit) :=
  match mode, expr with
  | .out, .localVar label target => .ok (.out, .localVar label target)
  | .out, _ => .error (.outArgNotLocal scope.method)
  | mode, expr => .ok (mode, expr)

mutual

def resolveExpr (scope : Scope) : Document.Expr → Except LowerError (Expr Unit)
  | .literal => .ok (.literal ())
  | .ident name => do
    match ← scope.resolveVariable name with
    | .localVar target => return .localVar () target
    | .param target => return .param () target
  | .staticField name ty => return .staticField () name (← typeId scope.types ty)
  | .field receiver name ty => do
    let receiver ← resolveExpr scope receiver
    return .field () receiver name (← typeId scope.types ty)
  | .index receiver operands ty => do
    let receiver ← resolveExpr scope receiver
    let operands ← resolveExprs scope operands
    return .index () receiver operands (← typeId scope.types ty)
  | .slice receiver operands ty => do
    let receiver ← resolveExpr scope receiver
    let operands ← resolveExprs scope operands
    return .slice () receiver operands (← typeId scope.types ty)
  | .scopeValue inner ty => do
    let inner ← resolveExpr scope inner
    return .scopeValue () inner (← typeId scope.types ty)
  | .call method args ty => do
    let method ← scope.methodId method
    let args ← resolveArguments scope args
    return .call () method args (← typeId scope.types ty)
  | .computed operands ty => do
    let operands ← resolveExprs scope operands
    return .computed () operands (← typeId scope.types ty)

def resolveExprs (scope : Scope) : List Document.Expr → Except LowerError (List (Expr Unit))
  | [] => .ok []
  | expr :: rest => do
    let expr ← resolveExpr scope expr
    let rest ← resolveExprs scope rest
    return expr :: rest

def resolveArguments (scope : Scope) :
    List (PassMode × Document.Expr) → Except LowerError (List (PassMode × Expr Unit))
  | [] => .ok []
  | (mode, expr) :: rest => do
    let expr ← resolveExpr scope expr
    let argument ← scope.checkArgument mode expr
    let rest ← resolveArguments scope rest
    return argument :: rest

end

def resolveOptional (scope : Scope) :
    Option Document.Expr → Except LowerError (Option (Expr Unit))
  | none => .ok none
  | some expr => return some (← scope.resolveExpr expr)

mutual

def resolveStmt (scope : Scope) : Document.Stmt → Except LowerError (Stmt Unit)
  | .declare target init => do
    let target ← scope.resolveLocal target
    return .declare () target (← scope.resolveOptional init)
  | .rebind target value => do
    let target ← scope.resolveLocal target
    return .rebind () target (← scope.resolveExpr value)
  | .assign target value => do
    let target ← scope.resolveExpr target
    return .assign () target (← scope.resolveExpr value)
  | .eval value => return .eval () (← scope.resolveExpr value)
  | .ret value => return .ret () (← scope.resolveOptional value)
  | .block body => return .block () (← resolveStmts scope body)
  | .ifThen condition thenBody => do
    let condition ← scope.resolveExpr condition
    let thenBody ← resolveStmts scope thenBody
    return .ifThen () condition ⟨(), thenBody⟩
  | .ifElse condition thenBody elseBody => do
    let condition ← scope.resolveExpr condition
    let thenBody ← resolveStmts scope thenBody
    let elseBody ← resolveStmts scope elseBody
    return .ifElse () condition ⟨(), thenBody⟩ ⟨(), elseBody⟩
  | .loop condition body => do
    let condition ← scope.resolveExpr condition
    let body ← resolveStmts scope body
    return .loop () condition ⟨(), body⟩
  | .forEach item collection body => do
    let item ← scope.resolveLocal item
    let collection ← scope.resolveExpr collection
    let body ← resolveStmts scope body
    return .forEach () item collection ⟨(), body⟩

def resolveStmts (scope : Scope) : List Document.Stmt → Except LowerError (List (Stmt Unit))
  | [] => .ok []
  | stmt :: rest => do
    let stmt ← resolveStmt scope stmt
    let rest ← resolveStmts scope rest
    return stmt :: rest

end

end Scope

/-- Checks the type and the name of a variable that comes after those in `before`. -/
def declareVariable (types : List String) (method : String) (before : List String)
    (name : String) (ty : Option String) : Except LowerError TypeId := do
  let ty ← typeId types ty
  if before.contains name then throw (.duplicateName name method)
  return ty

def resolveParams (types : List String) (method : String) (before : List String) :
    List Document.Param → Except LowerError (List (ParamDecl Unit))
  | [] => .ok []
  | param :: rest => do
    let ty ← declareVariable types method before param.name param.ty
    let rest ← resolveParams types method (before ++ [param.name]) rest
    return { label := (), name := param.name, ty, byRef := param.byRef } :: rest

def resolveLocals (types : List String) (method : String) (before : List String) :
    List Document.Local → Except LowerError (List (LocalDecl Unit))
  | [] => .ok []
  | declared :: rest => do
    let ty ← declareVariable types method before declared.name declared.ty
    let rest ← resolveLocals types method (before ++ [declared.name]) rest
    return { label := (), name := declared.name, ty, kind := declared.kind } :: rest

namespace Document

def Method.resolveBody (document : Program) (id : MethodId) (method : Method)
    (body : List Stmt) : Except LowerError (Body Unit) := do
  let types := document.types.map (·.name)
  let paramNames := method.params.map (·.name)
  let params ← resolveParams types method.name [] method.params
  let locals ← resolveLocals types method.name paramNames method.locals
  let scope : Scope :=
    { types, methods := document.methods, method := method.name, params := paramNames,
      locals := method.locals.map (·.name) }
  let stmts ← scope.resolveStmts body
  return { method := id, file := document.file, label := (), params, locals,
           root := ⟨(), stmts⟩ }

def Method.resolve (document : Program) (id : MethodId) (method : Method) :
    Except LowerError (RefStability.Method Unit) := do
  let body ← match method.body with
    | none => pure none
    | some body => some <$> method.resolveBody document id body
  return { name := method.name, signature := method.effectiveSignature,
           params := method.params.map (·.name), kind := method.kind, path := method.path,
           returnsRef := method.returnsRef, body }

def resolveMethods (document : Program) (id : MethodId) :
    List Method → Except LowerError (List (RefStability.Method Unit))
  | [] => .ok []
  | method :: rest => do
    let method ← method.resolve document id
    let rest ← resolveMethods document (id + 1) rest
    return method :: rest

/-- The first text that stands in the list a second time, or in `before`. -/
def firstRepeated? (before : List String) : List String → Option String
  | [] => none
  | text :: rest =>
    if before.contains text then some text else firstRepeated? (before ++ [text]) rest

/-- Resolves all names: first the types, then the signatures, then the bodies in order. -/
def Program.resolve (document : Program) : Except LowerError (RefStability.Program Unit) := do
  match firstRepeated? [unknownType.name] (document.types.map (·.name)) with
  | some name => throw (.duplicateType name)
  | none => pure ()
  match firstRepeated? [] (document.methods.map (·.effectiveSignature)) with
  | some signature => throw (.duplicateMethod signature)
  | none => pure ()
  let methods ← resolveMethods document 0 document.methods
  return { file := document.file, types := unknownType :: document.types, methods }

end Document

end RefStability
