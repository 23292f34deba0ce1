/-!
Decimal digits beside the doubles: the value of digits, the double nearest to a natural number, and
which decimals lie beyond all doubles.
-/

namespace RefStability.Decimal

def digitValue (digit : Char) : Nat := digit.toNat - '0'.toNat

def digitsValue (digits : List Char) : Nat :=
  digits.foldl (fun value digit => value * 10 + digitValue digit) 0

/-- The least magnitude that lies beyond the doubles after rounding. -/
def doubleLimit : Nat := Nat.pow 2 1024 - Nat.pow 2 970

/-- The nearest number of 53 significant bits, and of two the even one. -/
def roundToDouble (value : Nat) : Nat :=
  let unit := Nat.pow 2 (value.log2 + 1 - 53)
  let floor := value / unit
  let rest := value % unit
  if unit < 2 * rest || (2 * rest == unit && floor % 2 == 1) then (floor + 1) * unit
  else floor * unit

theorem roundToDouble_of_lt {value : Nat} (h : value < Nat.pow 2 53) : roundToDouble value = value := by
  have unit : value.log2 + 1 - 53 = 0 := by
    by_cases zero : value = 0
    · simp [zero]
    · have := (Nat.log2_lt zero).2 h
      omega
  simp [roundToDouble, unit, Nat.mod_one]

/-- Whether digits followed by a power of ten reach `doubleLimit`. -/
def exceedsDoubles (digits : List Char) (exponent : Int) : Bool :=
  let significant := digits.dropWhile (· == '0')
  let size := exponent + significant.length
  if significant.isEmpty || size < 309 then false
  else if 309 < size then true
  else if 0 ≤ exponent then doubleLimit ≤ digitsValue significant * Nat.pow 10 exponent.toNat
  else doubleLimit * Nat.pow 10 (-exponent).toNat ≤ digitsValue significant

end RefStability.Decimal
