/-!
Tokens of JSON text, read one character at a time.
-/

namespace RefStability.Json

/-- A string token has no text if it spells half of a surrogate pair. -/
inductive Token where
  | openBracket
  | closeBracket
  | openBrace
  | closeBrace
  | comma
  | colon
  | text (value : Option String)
  | number (literal : List Char)
  | word (letters : List Char)
deriving DecidableEq, Repr

/-- A string as far as it has been read: its characters in reverse, the first half of a surrogate
pair that waits for the second, and whether all pairs so far were complete. -/
structure PartialText where
  reversed : List Char
  leading : Option Nat
  isWhole : Bool

namespace PartialText

def empty : PartialText := ⟨[], none, true⟩

def push (text : PartialText) (c : Char) : PartialText where
  reversed := c :: text.reversed
  leading := none
  isWhole := text.isWhole && text.leading.isNone

def pushUnit (text : PartialText) (unit : Nat) : PartialText :=
  match text.leading with
  | some leading =>
    if 0xDC00 ≤ unit && unit ≤ 0xDFFF then
      { text with
        reversed := Char.ofNat (0x10000 + (leading - 0xD800) * 0x400 + (unit - 0xDC00)) ::
          text.reversed
        leading := none }
    else { text with leading := none, isWhole := false }
  | none =>
    if 0xD800 ≤ unit && unit ≤ 0xDBFF then { text with leading := some unit }
    else if 0xDC00 ≤ unit && unit ≤ 0xDFFF then { text with isWhole := false }
    else text.push (Char.ofNat unit)

def finish (text : PartialText) : Option String :=
  if text.isWhole && text.leading.isNone then some (String.ofList text.reversed.reverse) else none

end PartialText

inductive LexMode where
  | between
  | inText (text : PartialText)
  | inEscape (text : PartialText)
  | inUnit (text : PartialText) (digitsLeft unit : Nat)
  | inNumber (reversed : List Char)
  | inWord (reversed : List Char)

/-- The tokens read so far, the last one first, and the open mode. -/
structure Lexer where
  tokens : List Token
  mode : LexMode

def hexDigit? (c : Char) : Option Nat :=
  if '0' ≤ c && c ≤ '9' then some (c.toNat - '0'.toNat)
  else if 'a' ≤ c && c ≤ 'f' then some (c.toNat - 'a'.toNat + 10)
  else if 'A' ≤ c && c ≤ 'F' then some (c.toNat - 'A'.toNat + 10)
  else none

def isBlank (c : Char) : Bool := c == ' ' || c == '\t' || c == '\n' || c == '\r'

def isNumberChar (c : Char) : Bool :=
  c.isDigit || c == '-' || c == '+' || c == '.' || c == 'e' || c == 'E'

def escaped? : Char → Option Char
  | '"' => some '"'
  | '\\' => some '\\'
  | '/' => some '/'
  | 'b' => some '\x08'
  | 'f' => some '\x0c'
  | 'n' => some '\n'
  | 'r' => some '\r'
  | 't' => some '\t'
  | _ => none

namespace Lexer

def initial : Lexer := ⟨[], .between⟩

def start (tokens : List Token) (c : Char) : Option Lexer :=
  if isBlank c then some ⟨tokens, .between⟩
  else if c.isDigit || c == '-' then some ⟨tokens, .inNumber [c]⟩
  else if c.isLower then some ⟨tokens, .inWord [c]⟩
  else match c with
    | '[' => some ⟨.openBracket :: tokens, .between⟩
    | ']' => some ⟨.closeBracket :: tokens, .between⟩
    | '\x7b' => some ⟨.openBrace :: tokens, .between⟩
    | '\x7d' => some ⟨.closeBrace :: tokens, .between⟩
    | ',' => some ⟨.comma :: tokens, .between⟩
    | ':' => some ⟨.colon :: tokens, .between⟩
    | '"' => some ⟨tokens, .inText .empty⟩
    | _ => none

def step (lexer : Lexer) (c : Char) : Option Lexer :=
  match lexer.mode with
  | .between => start lexer.tokens c
  | .inText text =>
    if c == '"' then some ⟨.text text.finish :: lexer.tokens, .between⟩
    else if c == '\\' then some { lexer with mode := .inEscape text }
    else if c < ' ' then none
    else some { lexer with mode := .inText (text.push c) }
  | .inEscape text =>
    if c == 'u' then some { lexer with mode := .inUnit text 3 0 }
    else (escaped? c).map fun value => { lexer with mode := .inText (text.push value) }
  | .inUnit text digitsLeft unit =>
    (hexDigit? c).map fun digit =>
      match digitsLeft with
      | 0 => { lexer with mode := .inText (text.pushUnit (unit * 16 + digit)) }
      | digitsLeft + 1 => { lexer with mode := .inUnit text digitsLeft (unit * 16 + digit) }
  | .inNumber reversed =>
    if isNumberChar c then some { lexer with mode := .inNumber (c :: reversed) }
    else start (.number reversed.reverse :: lexer.tokens) c
  | .inWord reversed =>
    if c.isLower then some { lexer with mode := .inWord (c :: reversed) }
    else start (.word reversed.reverse :: lexer.tokens) c

/-- All tokens in order, unless a string is still open. -/
def finish (lexer : Lexer) : Option (List Token) :=
  match lexer.mode with
  | .between => some lexer.tokens.reverse
  | .inNumber reversed => some (.number reversed.reverse :: lexer.tokens).reverse
  | .inWord reversed => some (.word reversed.reverse :: lexer.tokens).reverse
  | _ => none

end Lexer

def tokens? (text : String) : Option (List Token) :=
  text.toList.foldlM Lexer.step Lexer.initial >>= Lexer.finish

end RefStability.Json
