/-!
# Shortest decimals

A binary64 number is written with the fewest decimal digits that read back as it, and of those
with the digits nearest to it. All comparisons are made with whole numbers.

* `Decimal.ofFloat` — the shortest decimal of a binary64 number;
* `Decimal.ofDigits?` — the shortest decimal of a number read from digits, an exponent and a sign;
* `Decimal.text` — its text: positional while the point stands near the digits, with an
  exponent otherwise.
-/

namespace RelationGateway

/-- The number `± digits · 10 ^ exponent`. -/
structure Decimal where
  /-- The number carries a minus sign. -/
  negative : Bool
  /-- The digits, read as a whole number. -/
  digits : Nat
  /-- The power of ten of the last digit. -/
  exponent : Int
deriving DecidableEq, Repr, Inhabited

namespace Decimal

/-- The interval of numbers that round to one binary64 number, in units of `2 ^ power`: the
number itself, its two ends, and whether the ends belong to it. -/
structure Rounding where
  /-- The least number that may round to it. -/
  low : Nat
  /-- The number itself. -/
  value : Nat
  /-- The greatest number that may round to it. -/
  high : Nat
  /-- The power of two of the unit. -/
  power : Int
  /-- The ends round to the number too. -/
  closed : Bool

/-- What rounds to a finite positive binary64 number, given its bits without the sign. -/
def Rounding.ofBits (bits : Nat) : Rounding :=
  let fraction : Nat := bits % 1 <<< 52
  let biased : Nat := bits >>> 52
  let mantissa : Nat := if biased = 0 then fraction else fraction + 1 <<< 52
  let power : Int := (if biased = 0 then 1 else Int.ofNat biased) - 1075
  -- Below a power of two the numbers stand twice as close.
  let below : Nat := if fraction = 0 ∧ 1 < biased then 1 else 2
  { low := 4 * mantissa - below
    value := 4 * mantissa
    high := 4 * mantissa + 2
    power := power - 2
    closed := mantissa % 2 = 0 }

/-- Compares `a · 2 ^ p` with `b · 10 ^ e`. -/
def compareScaled (a : Nat) (p : Int) (b : Nat) (e : Int) : Ordering :=
  compare (a <<< p.toNat * Nat.pow 10 (-e).toNat) (b <<< (-p).toNat * Nat.pow 10 e.toNat)

/-- A candidate `c · 10 ^ e` rounds to the number. -/
def Rounding.admits (r : Rounding) (c : Nat) (e : Int) : Bool :=
  let above := compareScaled r.low r.power c e
  let under := compareScaled r.high r.power c e
  (above == .lt || (r.closed && above == .eq)) && (under == .gt || (r.closed && under == .eq))

/-- The quotient of `value · 2 ^ power` by `10 ^ e` as numerator and denominator. -/
def Rounding.over (r : Rounding) (e : Int) : Nat × Nat :=
  (r.value <<< r.power.toNat * Nat.pow 10 (-e).toNat, 1 <<< (-r.power).toNat * Nat.pow 10 e.toNat)

/-- Tries ever finer decimal grids, the first of exponent `e`; the first grid with a point that
rounds to the number gives the answer, the nearer of two points winning. -/
def Rounding.search (r : Rounding) : Nat → Int → Nat × Int
  | 0, e => let (n, d) := r.over e; (n / d, e)
  | fuel + 1, e =>
    let (n, d) := r.over e
    let c := n / d
    let nearerUp := d < 2 * (n % d) || (2 * (n % d) == d && c % 2 == 1)
    -- No other points of this grid are as near as these two.
    let (first, second) := if nearerUp then (c + 1, c) else (c, c + 1)
    if r.admits first e then (first, e)
    else if r.admits second e then (second, e)
    else r.search fuel (e - 1)

/-- The decimal exponent of the leading digit of `value · 2 ^ power`. -/
def Rounding.magnitude (r : Rounding) : Int :=
  let (n, d) := r.over 0
  let guess : Int := ((toString n).length : Int) - (toString d).length
  if compareScaled r.value r.power 1 guess == .lt then guess - 1 else guess

/-- The digits without trailing zeros. -/
def stripZeros : Nat → Nat → Int → Nat × Int
  | 0, digits, e => (digits, e)
  | fuel + 1, digits, e =>
    if digits ≠ 0 ∧ digits % 10 = 0 then stripZeros fuel (digits / 10) (e + 1) else (digits, e)

/-- The shortest decimal that reads back as the finite binary64 number. -/
def ofFloat (x : Float) : Decimal :=
  let bits := x.toBits.toNat
  let negative := 1 <<< 63 ≤ bits
  let positive := bits % 1 <<< 63
  if positive = 0 then ⟨negative, 0, 0⟩
  else
    let r := Rounding.ofBits positive
    let (digits, e) := r.search 17 r.magnitude
    let (digits, e) := stripZeros 20 digits e
    ⟨negative, digits, e⟩

/-- The binary64 number nearest to a power of ten. -/
def powerOfTen (n : Nat) : Float := Float.ofScientific 1 false n

/-- The digits times a power of ten, computed in binary64: the digits are rounded and then
multiplied or divided by the power, which is divided off in two steps where it is beyond the
least one. Numbers too great for binary64 have no value. -/
def scaled? (digits : Nat) (exponent : Int) : Option Float :=
  let x := Float.ofNat digits
  if digits = 0 ∨ exponent < -616 then some 0.0
  else if 308 < exponent then none
  else if 0 ≤ exponent then some (x * powerOfTen exponent.toNat) |>.filter Float.isFinite
  else if -308 ≤ exponent then some (x / powerOfTen (-exponent).toNat)
  else some (x / powerOfTen 308 / powerOfTen (-exponent - 308).toNat)

/-- The shortest decimal of the binary64 number computed from digits and a power of ten. -/
def ofDigits? (negative : Bool) (digits : Nat) (exponent : Int) : Option Decimal :=
  (scaled? digits exponent).map fun x => ofFloat (if negative then -x else x)

/-- The text of a decimal. The point is written while it stands at most sixteen places after
the first digit or five before it; a whole number ends in `.0`, and an exponent always has a
sign. -/
def text (d : Decimal) : String :=
  let digits := Nat.toDigits 10 d.digits
  let point := digits.length + d.exponent
  let body :=
    if d.digits = 0 then "0.0".toList
    else if 0 ≤ d.exponent ∧ point ≤ 16 then
      digits ++ List.replicate d.exponent.toNat '0' ++ ['.', '0']
    else if 0 < point ∧ point ≤ 16 then
      digits.take point.toNat ++ '.' :: digits.drop point.toNat
    else if -5 < point ∧ point ≤ 0 then
      '0' :: '.' :: (List.replicate (-point).toNat '0' ++ digits)
    else
      let power := 'e' :: (if 0 < point then ['+'] else []) ++ (toString (point - 1)).toList
      match digits with
      | [] => power
      | [one] => one :: power
      | first :: rest => first :: '.' :: (rest ++ power)
  String.ofList (if d.negative then '-' :: body else body)

end Decimal

end RelationGateway
