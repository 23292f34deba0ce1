import RefStability.Decimal
import RefStability.Json.Basic

/-!
Numbers in JSON: which spellings are allowed, and which of them stand for a value. A number that is
no integer of 64 bits is taken as a significand of 64 bits and a power of ten. Both are rounded to
doubles and multiplied, and the number stands for no value if the product is beyond the doubles.
-/

namespace RefStability.Json

open Decimal

/-- A number as far as its digits have been read. It is full once a digit does not fit. -/
structure Scientific where
  significand : Nat
  exponent : Int
  isFull : Bool
deriving DecidableEq, Repr

namespace Scientific

def zero : Scientific := ⟨0, 0, false⟩

def extended? (number : Scientific) (digit : Char) : Option Nat :=
  let significand := number.significand * 10 + digitValue digit
  if number.isFull || Nat.pow 2 64 ≤ significand then none else some significand

/-- A digit before the point. One that does not fit still counts as a place. -/
def pushWhole (number : Scientific) (digit : Char) : Scientific :=
  match number.extended? digit with
  | some significand => { number with significand }
  | none => { number with exponent := number.exponent + 1, isFull := true }

/-- A digit after the point. One that does not fit is left out, as are all after it. -/
def pushFraction (number : Scientific) (digit : Char) : Scientific :=
  match number.extended? digit with
  | some significand => { number with significand, exponent := number.exponent - 1 }
  | none => { number with isFull := true }

def ofWhole (whole : List Char) : Scientific := whole.foldl pushWhole zero

/-- The digits before and after a point; those after it are tried anew. -/
def ofParts (whole fraction : List Char) : Scientific :=
  fraction.foldl pushFraction { ofWhole whole with isFull := false }

def scale (number : Scientific) (exponent : Int) : Scientific :=
  { number with exponent := number.exponent + exponent }

/-- Whether the product of the two rounded factors is beyond the doubles. -/
def isOutOfRange (number : Scientific) : Bool :=
  if number.significand == 0 || number.exponent < 0 then false
  else if 308 < number.exponent then true
  else doubleLimit ≤
    roundToDouble number.significand * roundToDouble (Nat.pow 10 number.exponent.toNat)

end Scientific

/-- A fraction: a point and at least one digit, or nothing. -/
def splitFraction : List Char → Option (List Char × List Char)
  | '.' :: rest =>
    let digits := rest.takeWhile Char.isDigit
    if digits.isEmpty then none else some (digits, rest.dropWhile Char.isDigit)
  | rest => some ([], rest)

/-- An exponent: a mark, a sign if wanted and at least one digit, or nothing. -/
def splitExponent (chars : List Char) : Option Int :=
  match chars with
  | [] => some 0
  | mark :: rest =>
    if mark == 'e' || mark == 'E' then
      let (isNegative, digits) := match rest with
        | '-' :: digits => (true, digits)
        | '+' :: digits => (false, digits)
        | digits => (false, digits)
      if digits.isEmpty || !digits.all Char.isDigit then none
      else some (if isNegative then -(digitsValue digits : Int) else digitsValue digits)
    else none

/-- A number with a fraction or an exponent, or too long for an integer. -/
def ofScientific (literal : List Char) (number : Scientific) : Json :=
  if number.isOutOfRange then .unreadable else .decimal (String.ofList literal)

/-- The value of a number written without fraction and exponent. -/
def ofWhole (literal : List Char) (isNegative : Bool) (digits : List Char) : Json :=
  let value := digitsValue digits
  if isNegative && value != 0 && value ≤ Nat.pow 2 63 then .integer (-value)
  else if !isNegative && value < Nat.pow 2 64 then .integer value
  else ofScientific literal (.ofWhole digits)

/-- Reads a number; `none` for a spelling that is not allowed. -/
def ofLiteral? (literal : List Char) : Option Json := do
  let (isNegative, unsigned) := match literal with
    | '-' :: rest => (true, rest)
    | rest => (false, rest)
  let whole := unsigned.takeWhile Char.isDigit
  let tail := unsigned.dropWhile Char.isDigit
  if whole.isEmpty || (whole.head? == some '0' && whole.length != 1) then none
  else if tail.isEmpty then some (ofWhole literal isNegative whole)
  else
    let (fraction, exponentPart) ← splitFraction tail
    let exponent ← splitExponent exponentPart
    some (ofScientific literal ((Scientific.ofParts whole fraction).scale exponent))

end RefStability.Json
