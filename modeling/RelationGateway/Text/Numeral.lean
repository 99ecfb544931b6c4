/-!
# Decimal numerals

Numbers are written in decimal digits and read with a bound. A reader takes one leading sign
and then at least one digit; a number beyond its bound is not a number.
-/

namespace RelationGateway.Text

/-- The number that a row of ASCII digits stands for; no digits stand for no number. -/
def digitsValue? (digits : List Char) : Option Nat :=
  if digits ≠ [] ∧ digits.all Char.isDigit then
    some (digits.foldl (fun n d => 10 * n + (d.toNat - '0'.toNat)) 0)
  else
    none

/-- The text consists of ASCII digits and holds at least one. -/
def isDigits (s : String) : Bool := !s.isEmpty && s.toList.all Char.isDigit

/-- A number no greater than `bound`, with or without a plus sign. -/
def unsigned? (bound : Nat) (s : String) : Option Nat :=
  let digits := match s.toList with
    | '+' :: rest => rest
    | all => all
  (digitsValue? digits).filter (· ≤ bound)

/-- A number of 64 bits in two's complement, with or without a sign. -/
def signed64? (s : String) : Option Int :=
  match s.toList with
  | '-' :: rest => ((digitsValue? rest).filter (· ≤ 1 <<< 63)).map fun n => -(n : Int)
  | '+' :: rest => ((digitsValue? rest).filter (· < 1 <<< 63)).map fun n => (n : Int)
  | all => ((digitsValue? all).filter (· < 1 <<< 63)).map fun n => (n : Int)

/-- The greatest number of 64 bits without a sign. -/
def maxUnsigned64 : Nat := 1 <<< 64 - 1

/-- The greatest number of 32 bits without a sign. -/
def maxUnsigned32 : Nat := 1 <<< 32 - 1

example : unsigned? maxUnsigned64 "+007" = some 7 := by decide
example : unsigned? maxUnsigned64 "+" = none := by decide
example : unsigned? maxUnsigned64 "18446744073709551616" = none := by decide
example : signed64? "-9223372036854775808" = some (-9223372036854775808) := by decide

end RelationGateway.Text
