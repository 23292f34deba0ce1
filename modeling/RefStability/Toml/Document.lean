import RefStability.Toml.Number
import RefStability.Toml.Table

/-!
TOML documents: a list of statements, each on a line of its own, which build up one table.
-/

namespace RefStability.Toml

/-- Arrays and inline tables nest at most this deep, and keys have at most this many parts. -/
def maxNesting : Nat := 79

def isBareKeyChar (c : Char) : Bool := c.isAlphanum || c == '_' || c == '-'

def keyPart : Reader String := fun chars => do
  let start := skipBlanks chars
  let bare := start.takeWhile isBareKeyChar
  let (part, rest) ←
    if bare.isEmpty then lineText start
    else some (String.ofList bare, start.dropWhile isBareKeyChar)
  return (part, skipBlanks rest)

/-- One or more parts with a separator between them. -/
def separated {α : Type} (part : Reader α) (separator : Char) (chars : List Char) :
    Option (List α × List Char) :=
  match part chars with
  | none => none
  | some (value, []) => some ([value], [])
  | some (value, c :: rest) =>
    if c = separator ∧ rest.length < chars.length then
      (separated part separator rest).map fun (values, rest) => (value :: values, rest)
    else some ([value], c :: rest)
termination_by chars.length
decreasing_by omega

def key : Reader (List String) := fun chars =>
  (separated keyPart '.' chars).filter fun (parts, _) => parts.length ≤ maxNesting

def assignment (value : Reader Value) : Reader (List String × Value) := fun chars => do
  match ← key chars with
  | (path, '=' :: rest) =>
    let (assigned, rest) ← value (skipBlanks rest)
    return ((path, assigned), skipBlanks rest)
  | _ => none

/-- The items of an array and its closing bracket. A comma may follow the last item. -/
def arrayItems (value : Reader Value) (chars : List Char) : Option (List Value × List Char) :=
  match skipSpace false chars with
  | ']' :: rest => some ([], rest)
  | start =>
    match value start with
    | none => none
    | some (item, rest) =>
      match skipSpace false rest with
      | ']' :: rest => some ([item], rest)
      | ',' :: rest =>
        if rest.length < chars.length then
          (arrayItems value rest).map fun (items, rest) => (item :: items, rest)
        else none
      | _ => none
termination_by chars.length

def inlineEntries (value : Reader Value) : Reader Value := fun chars =>
  match skipBlanks chars with
  | '\x7d' :: rest => some (.table [], rest)
  | start => do
    match ← separated (assignment value) ',' start with
    | (assignments, '\x7d' :: rest) => return (← inlineTable? assignments, rest)
    | _ => none

/-- A value that nests at most the given number of arrays and inline tables. -/
def value : Nat → Reader Value
  | _, '"' :: rest => (anyText ('"' :: rest)).map fun (text, rest) => (.text text, rest)
  | _, '\'' :: rest => (anyText ('\'' :: rest)).map fun (text, rest) => (.text text, rest)
  | nesting + 1, '[' :: rest =>
    (arrayItems (value nesting) rest).map fun (items, rest) => (.array items, rest)
  | nesting + 1, '\x7b' :: rest => inlineEntries (value nesting) rest
  | _, chars => word chars

/-- A header opens a table or adds one to a list of tables; a key gives a value. -/
inductive Statement where
  | blank
  | openTable (path : List String)
  | openElement (path : List String)
  | assign (path : List String) (value : Value)

def statement : Reader Statement := fun chars => do
  let (read, rest) ← match skipBlanks chars with
    | '[' :: '[' :: rest => do
      match ← key rest with
      | (path, ']' :: ']' :: rest) => some (.openElement path, rest)
      | _ => none
    | '[' :: rest => do
      match ← key rest with
      | (path, ']' :: rest) => some (.openTable path, rest)
      | _ => none
    | start =>
      if (lineEnd? start).isSome then some (.blank, start)
      else do
        let ((path, assigned), rest) ← assignment (value maxNesting) start
        some (.assign path assigned, rest)
  return (read, ← lineEnd? rest)

def statements (chars : List Char) : Option (List Statement) :=
  if chars.isEmpty then some []
  else
    match statement chars with
    | none => none
    | some (read, rest) =>
      if rest.length < chars.length then (statements rest).map (read :: ·) else none
termination_by chars.length

/-- The tables built so far, and the path of the one that keys add to. -/
structure Builder where
  root : Entries
  current : List String

namespace Builder

def initial : Builder := ⟨[], []⟩

def step (builder : Builder) : Statement → Option Builder
  | .blank => some builder
  | .openTable path => do
    let root ← Entries.changeAt (Entries.openTable (← path.getLast?)) path.dropLast builder.root
    return ⟨root, path⟩
  | .openElement path => do
    let root ← Entries.changeAt (Entries.openElement (← path.getLast?)) path.dropLast builder.root
    return ⟨root, path⟩
  | .assign path assigned => do
    let change := Entries.assign (← path.getLast?) assigned true path.dropLast
    return { builder with root := ← Entries.changeAt change builder.current builder.root }

end Builder

def skipMark : List Char → List Char
  | '\uFEFF' :: rest => rest
  | chars => chars

def parse? (text : String) : Option Value := do
  let builder ← (← statements (skipMark text.toList)).foldlM Builder.step .initial
  return .table (closeEntries builder.root)

end RefStability.Toml
