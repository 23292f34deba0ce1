import RefStability.Decimal
import RefStability.Json.Token
import RefStability.Toml.Basic
import RefStability.Toml.Text

/-!
TOML values that are written as one word: truth values, integers, floats, dates and times.
-/

namespace RefStability.Toml

/-- Digits without the underscores between them; each underscore must stand between two digits. -/
def ungroup (isDigit : Char → Bool) : List Char → Option (List Char)
  | [] => none
  | [c] => if isDigit c then some [c] else none
  | c :: '_' :: rest => if isDigit c then (ungroup isDigit rest).map (c :: ·) else none
  | c :: rest => if isDigit c then (ungroup isDigit rest).map (c :: ·) else none

def splitSign : List Char → Bool × List Char
  | '-' :: rest => (true, rest)
  | '+' :: rest => (false, rest)
  | rest => (false, rest)

/-- Decimal digits; only zero itself starts with a zero. -/
def decimalDigits? (chars : List Char) : Option (List Char) :=
  (ungroup Char.isDigit chars).filter fun digits =>
    digits.length == 1 || digits.head? != some '0'

/-- Integers have 64 bits and a sign. -/
def inRange? (value : Int) : Option Value :=
  if -Int.pow 2 63 ≤ value && value < Int.pow 2 63 then some (.integer value) else none

/-- A number in a base that is a power of two, after the letter that says which. -/
def based? (base : Nat) (chars : List Char) : Option Value := do
  let isDigit (c : Char) : Bool := (Json.hexDigit? c).any (· < base)
  let digits ← (← ungroup isDigit chars).mapM Json.hexDigit?
  inRange? (digits.foldl (fun value digit => value * base + digit) 0 : Nat)

def integer? : List Char → Option Value
  | '0' :: 'x' :: rest => based? 16 rest
  | '0' :: 'o' :: rest => based? 8 rest
  | '0' :: 'b' :: rest => based? 2 rest
  | word => do
    let (isNegative, unsigned) := splitSign word
    let value : Int := Decimal.digitsValue (← decimalDigits? unsigned)
    inRange? (if isNegative then -value else value)

def isGroupChar (c : Char) : Bool := c.isDigit || c == '_'

def exponent? : List Char → Option Int
  | [] => some 0
  | mark :: rest =>
    if mark == 'e' || mark == 'E' then do
      let (isNegative, unsigned) := splitSign rest
      let value : Int := Decimal.digitsValue (← ungroup Char.isDigit unsigned)
      return if isNegative then -value else value
    else none

/-- A float has a fraction or an exponent, or is infinite or no number. One that is too large is
refused unless it is negative. -/
def float? (word : List Char) : Option Value := do
  let (isNegative, unsigned) := splitSign word
  let float : Value := .float (String.ofList word)
  if unsigned = ['i', 'n', 'f'] || unsigned = ['n', 'a', 'n'] then return float
  let whole ← decimalDigits? (unsigned.takeWhile isGroupChar)
  let tail := unsigned.dropWhile isGroupChar
  let (fraction, exponent) ← match tail with
    | [] => none
    | '.' :: rest => do
      let fraction ← ungroup Char.isDigit (rest.takeWhile isGroupChar)
      some (fraction, ← exponent? (rest.dropWhile isGroupChar))
    | _ => do some ([], ← exponent? tail)
  if !isNegative && Decimal.exceedsDoubles (whole ++ fraction) (exponent - fraction.length) then none
  else return float

/-- The value of digits if it lies between two bounds. -/
def between? (low high : Nat) (digits : List Char) : Option Nat :=
  if digits.all Char.isDigit then
    (some (Decimal.digitsValue digits)).filter fun value => low ≤ value && value ≤ high
  else none

def isLeapYear (year : Nat) : Bool := year % 4 == 0 && (year % 100 != 0 || year % 400 == 0)

def daysInMonth (year month : Nat) : Nat :=
  if month == 2 then if isLeapYear year then 29 else 28
  else if month == 4 || month == 6 || month == 9 || month == 11 then 30
  else 31

def date? : List Char → Option (List Char)
  | a :: b :: c :: d :: '-' :: e :: f :: '-' :: g :: h :: rest => do
    let year ← between? 0 9999 [a, b, c, d]
    let month ← between? 1 12 [e, f]
    let _ ← between? 1 (daysInMonth year month) [g, h]
    return rest
  | _ => none

def secondFraction? : List Char → Option (List Char)
  | '.' :: rest =>
    if (rest.takeWhile Char.isDigit).isEmpty then none else some (rest.dropWhile Char.isDigit)
  | rest => some rest

def time? : List Char → Option (List Char)
  | a :: b :: ':' :: c :: d :: ':' :: e :: f :: rest => do
    let _ ← between? 0 23 [a, b]
    let _ ← between? 0 59 [c, d]
    let _ ← between? 0 60 [e, f]
    secondFraction? rest
  | _ => none

/-- Nothing, or how far a time lies from universal time. -/
def isOffset : List Char → Bool
  | [] => true
  | ['Z'] => true
  | ['z'] => true
  | [sign, a, b, ':', c, d] =>
    (sign == '+' || sign == '-') && (between? 0 23 [a, b]).isSome && (between? 0 59 [c, d]).isSome
  | _ => false

def isTimeWithOffset (word : List Char) : Bool := (time? word).any isOffset

def isDateTime (word : List Char) : Bool :=
  match date? word with
  | some [] => true
  | some (mark :: rest) => (mark == 'T' || mark == 't') && isTimeWithOffset rest
  | none => time? word == some []

def isWordChar (c : Char) : Bool :=
  c.isAlphanum || c == '_' || c == '+' || c == '-' || c == '.' || c == ':'

def wordValue? (word : List Char) : Option Value :=
  if word = ['t', 'r', 'u', 'e'] then some (.bool true)
  else if word = ['f', 'a', 'l', 's', 'e'] then some (.bool false)
  else if isDateTime word then some (.dateTime (String.ofList word))
  else (float? word).or (integer? word)

/-- A value written as one word, or as a date and a time with a blank between them. -/
def word : Reader Value := fun chars =>
  let first := chars.takeWhile isWordChar
  let rest := chars.dropWhile isWordChar
  let second := (rest.drop 1).takeWhile isWordChar
  if date? first == some [] && rest.head? == some ' ' && isTimeWithOffset second then
    some (.dateTime (String.ofList (first ++ ' ' :: second)), (rest.drop 1).dropWhile isWordChar)
  else (wordValue? first).map fun value => (value, rest)

end RefStability.Toml
