import RefStability.Json.Number
import RefStability.Json.Token

/-!
Reading JSON values from tokens, with the containers that are still open kept on a stack.
-/

namespace RefStability.Json

/-- An open container: the items or fields before the value in hand, the last one first. -/
inductive Frame where
  | item (before : List Json)
  | field (before : List (Option String × Json)) (key : Option String)

inductive Expectation where
  | value
  | firstItem
  | firstKey
  | key (fields : List (Option String × Json))
  | colon (fields : List (Option String × Json)) (key : Option String)
  | afterValue (value : Json)

structure Reader where
  frames : List Frame
  expectation : Expectation

/-- An object from its fields in reverse; a key without text makes it unreadable. -/
def ofReversedFields (fields : List (Option String × Json)) : Json :=
  match fields.reverse.mapM fun (key, value) => key.map fun text => (text, value) with
  | some readable => .object readable
  | none => .unreadable

def scalar? : Token → Option Json
  | .text (some text) => some (.string text)
  | .text none => some .unreadable
  | .number literal => ofLiteral? literal
  | .word ['n', 'u', 'l', 'l'] => some .null
  | .word ['t', 'r', 'u', 'e'] => some (.bool true)
  | .word ['f', 'a', 'l', 's', 'e'] => some (.bool false)
  | _ => none

namespace Reader

def initial : Reader := ⟨[], .value⟩

def startValue (frames : List Frame) (token : Token) : Option Reader :=
  match token with
  | .openBracket => some ⟨frames, .firstItem⟩
  | .openBrace => some ⟨frames, .firstKey⟩
  | _ => (scalar? token).map fun value => ⟨frames, .afterValue value⟩

def startKey (frames : List Frame) (fields : List (Option String × Json)) :
    Token → Option Reader
  | .text key => some ⟨frames, .colon fields key⟩
  | _ => none

def step (reader : Reader) (token : Token) : Option Reader :=
  match reader.expectation with
  | .value => startValue reader.frames token
  | .firstItem =>
    if token = .closeBracket then some { reader with expectation := .afterValue (.array []) }
    else startValue (.item [] :: reader.frames) token
  | .firstKey =>
    if token = .closeBrace then some { reader with expectation := .afterValue (.object []) }
    else startKey reader.frames [] token
  | .key fields => startKey reader.frames fields token
  | .colon fields key =>
    if token = .colon then some ⟨.field fields key :: reader.frames, .value⟩ else none
  | .afterValue value =>
    match token, reader.frames with
    | .comma, .item before :: frames => some ⟨.item (value :: before) :: frames, .value⟩
    | .closeBracket, .item before :: frames =>
      some ⟨frames, .afterValue (.array (value :: before).reverse)⟩
    | .comma, .field before key :: frames => some ⟨frames, .key ((key, value) :: before)⟩
    | .closeBrace, .field before key :: frames =>
      some ⟨frames, .afterValue (ofReversedFields ((key, value) :: before))⟩
    | _, _ => none

/-- The value read, if no container is open. -/
def finish (reader : Reader) : Option Json :=
  match reader.frames, reader.expectation with
  | [], .afterValue value => some value
  | _, _ => none

end Reader

/-- Reads a text that follows the syntax of JSON; parts of the value may be unreadable. -/
def scan? (text : String) : Option Json := do
  let tokens ← tokens? text
  tokens.foldlM Reader.step Reader.initial >>= Reader.finish

/-- The deepest nesting of arrays and objects that is read from text. -/
def maxDepth : Nat := 127

/-- Reads a text that stands for a value in all its parts. -/
def parse? (text : String) : Option Json :=
  (scan? text).filter fun json => json.isReadable && json.depth ≤ maxDepth

end RefStability.Json
