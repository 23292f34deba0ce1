import RefStability.Json.Token

/-!
The characters of TOML text: blanks, line ends, comments and the four ways to write a string. A
reader takes characters from the front of a list and gives back the rest.
-/

namespace RefStability.Toml

abbrev Reader (α : Type) := List Char → Option (α × List Char)

def isBlank (c : Char) : Bool := c == ' ' || c == '\t'

/-- Characters that may stand in comments and, unless they have a meaning there, in strings. -/
def isPlain (c : Char) : Bool := c == '\t' || (' ' ≤ c && c != '\x7f')

def skipBlanks (chars : List Char) : List Char := chars.dropWhile isBlank

def lineBreak? : List Char → Option (List Char)
  | '\n' :: rest => some rest
  | '\r' :: '\n' :: rest => some rest
  | _ => none

/-- The rest after the end of a line: blanks and a comment if wanted, then a line break or the end of
the text. -/
def lineEnd? (chars : List Char) : Option (List Char) :=
  let afterComment := match skipBlanks chars with
    | '#' :: rest => rest.dropWhile isPlain
    | rest => rest
  if afterComment.isEmpty then some [] else lineBreak? afterComment

def skipSpace (inComment : Bool) : List Char → List Char
  | [] => []
  | c :: rest =>
    if c == '\n' || (c == '\r' && rest.head? == some '\n') then skipSpace false rest
    else if inComment && isPlain c then skipSpace true rest
    else if inComment then c :: rest
    else if isBlank c then skipSpace false rest
    else if c == '#' then skipSpace true rest
    else c :: rest

def escaped? : Char → Option Char
  | '"' => some '"'
  | '\\' => some '\\'
  | 'b' => some '\x08'
  | 'f' => some '\x0c'
  | 'n' => some '\n'
  | 'r' => some '\r'
  | 't' => some '\t'
  | _ => none

def codePoint? (digits : List Char) : Option Char := do
  let code := (← digits.mapM Json.hexDigit?).foldl (fun code digit => code * 16 + digit) 0
  if code.isValidChar then some (Char.ofNat code) else none

def prepend (c : Option Char) (read : Option (List Char × List Char)) :
    Option (List Char × List Char) := do
  let c ← c
  let (text, rest) ← read
  return (c :: text, rest)

/-- The rest of a string with escapes, up to its quote. -/
def basicText : Reader (List Char)
  | [] => none
  | '"' :: rest => some ([], rest)
  | '\\' :: 'u' :: a :: b :: c :: d :: rest => prepend (codePoint? [a, b, c, d]) (basicText rest)
  | '\\' :: 'U' :: a :: b :: c :: d :: e :: f :: g :: h :: rest =>
    prepend (codePoint? [a, b, c, d, e, f, g, h]) (basicText rest)
  | '\\' :: c :: rest => prepend (escaped? c) (basicText rest)
  | c :: rest => if isPlain c && c != '\\' then prepend (some c) (basicText rest) else none

def literalText : Reader (List Char)
  | [] => none
  | '\'' :: rest => some ([], rest)
  | c :: rest => if isPlain c then prepend (some c) (literalText rest) else none

/-- What a backslash at the end of a line leaves out: the blanks up to the line break, then all
blanks and line breaks after it. -/
inductive Trim where
  | nothing
  | toBreak
  | toText
deriving DecidableEq

/-- The rest of a string of several lines with escapes. Up to two quotes may stand before the three
that close it. -/
def multilineText : Trim → Reader (List Char)
  | .toBreak, ' ' :: rest => multilineText .toBreak rest
  | .toBreak, '\t' :: rest => multilineText .toBreak rest
  | .toBreak, '\n' :: rest => multilineText .toText rest
  | .toBreak, '\r' :: '\n' :: rest => multilineText .toText rest
  | .toBreak, _ => none
  | .toText, ' ' :: rest => multilineText .toText rest
  | .toText, '\t' :: rest => multilineText .toText rest
  | .toText, '\n' :: rest => multilineText .toText rest
  | .toText, '\r' :: '\n' :: rest => multilineText .toText rest
  | _, '"' :: '"' :: '"' :: '"' :: '"' :: rest => some (['"', '"'], rest)
  | _, '"' :: '"' :: '"' :: '"' :: rest => some (['"'], rest)
  | _, '"' :: '"' :: '"' :: rest => some ([], rest)
  | _, '\\' :: 'u' :: a :: b :: c :: d :: rest =>
    prepend (codePoint? [a, b, c, d]) (multilineText .nothing rest)
  | _, '\\' :: 'U' :: a :: b :: c :: d :: e :: f :: g :: h :: rest =>
    prepend (codePoint? [a, b, c, d, e, f, g, h]) (multilineText .nothing rest)
  | _, '\\' :: ' ' :: rest => multilineText .toBreak rest
  | _, '\\' :: '\t' :: rest => multilineText .toBreak rest
  | _, '\\' :: '\n' :: rest => multilineText .toText rest
  | _, '\\' :: '\r' :: '\n' :: rest => multilineText .toText rest
  | _, '\\' :: c :: rest => prepend (escaped? c) (multilineText .nothing rest)
  | _, '\r' :: '\n' :: rest => prepend (some '\n') (multilineText .nothing rest)
  | _, '\n' :: rest => prepend (some '\n') (multilineText .nothing rest)
  | _, c :: rest =>
    if isPlain c && c != '\\' then prepend (some c) (multilineText .nothing rest) else none
  | _, [] => none

def multilineLiteral : Reader (List Char)
  | '\'' :: '\'' :: '\'' :: '\'' :: '\'' :: rest => some (['\'', '\''], rest)
  | '\'' :: '\'' :: '\'' :: '\'' :: rest => some (['\''], rest)
  | '\'' :: '\'' :: '\'' :: rest => some ([], rest)
  | '\r' :: '\n' :: rest => prepend (some '\n') (multilineLiteral rest)
  | '\n' :: rest => prepend (some '\n') (multilineLiteral rest)
  | c :: rest => if isPlain c then prepend (some c) (multilineLiteral rest) else none
  | [] => none

/-- A line break right after the opening quotes is left out. -/
def skipFirstBreak (chars : List Char) : List Char := (lineBreak? chars).getD chars

def toText (read : Option (List Char × List Char)) : Option (String × List Char) :=
  read.map fun (text, rest) => (String.ofList text, rest)

/-- A string on one line. -/
def lineText : Reader String
  | '"' :: rest => toText (basicText rest)
  | '\'' :: rest => toText (literalText rest)
  | _ => none

/-- A string in any of its forms. -/
def anyText : Reader String
  | '"' :: '"' :: '"' :: rest => toText (multilineText .nothing (skipFirstBreak rest))
  | '\'' :: '\'' :: '\'' :: rest => toText (multilineLiteral (skipFirstBreak rest))
  | chars => lineText chars

end RefStability.Toml
