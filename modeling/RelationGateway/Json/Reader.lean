import RelationGateway.Json.Value

/-!
# Reading JSON

A reader of JSON texts. An integer from `-2 ^ 63` to `2 ^ 64 - 1` is kept exactly, every other
number is computed in binary64 from its leading digits and its power of ten. Of members with one name the last value wins, in the place of
the first.
-/

namespace RelationGateway.Json

/-- The rest of a text after JSON blanks. -/
def skipBlanks (cs : List Char) : List Char :=
  cs.dropWhile fun c => c == ' ' || c == '\n' || c == '\r' || c == '\t'

/-- The value of a hexadecimal digit. -/
def hexValue? (c : Char) : Option Nat :=
  if c.isDigit then some (c.toNat - '0'.toNat)
  else if 'a' ≤ c ∧ c ≤ 'f' then some (c.toNat - 'a'.toNat + 10)
  else if 'A' ≤ c ∧ c ≤ 'F' then some (c.toNat - 'A'.toNat + 10)
  else none

/-- Four hexadecimal digits and the rest. -/
def readUnit? : List Char → Option (Nat × List Char)
  | a :: b :: c :: d :: rest => do
    let a ← hexValue? a
    let b ← hexValue? b
    let c ← hexValue? c
    let d ← hexValue? d
    some (((a * 16 + b) * 16 + c) * 16 + d, rest)
  | _ => none

/-- A code point written as one or two units of sixteen bits, after the first `\u`. -/
def readCodePoint? (cs : List Char) : Option (Char × List Char) := do
  let (high, rest) ← readUnit? cs
  if 0xD800 ≤ high ∧ high < 0xDC00 then
    match rest with
    | '\\' :: 'u' :: more =>
      let (low, rest) ← readUnit? more
      if 0xDC00 ≤ low ∧ low < 0xE000 then
        some (Char.ofNat (0x10000 + (high - 0xD800) * 0x400 + (low - 0xDC00)), rest)
      else
        none
    | _ => none
  else if 0xDC00 ≤ high ∧ high < 0xE000 then none
  else some (Char.ofNat high, rest)

/-- The characters up to the closing quote, given those already read in reverse. -/
def readQuoted? : Nat → List Char → List Char → Option (String × List Char)
  | 0, _, _ => none
  | fuel + 1, read, cs =>
    match cs with
    | [] => none
    | '"' :: rest => some (String.ofList read.reverse, rest)
    | '\\' :: 'u' :: rest => do
      let (c, rest) ← readCodePoint? rest
      readQuoted? fuel (c :: read) rest
    | '\\' :: e :: rest =>
      let plain := match e with
        | '"' => some '"'
        | '\\' => some '\\'
        | '/' => some '/'
        | 'b' => some '\x08'
        | 'f' => some '\x0c'
        | 'n' => some '\n'
        | 'r' => some '\r'
        | 't' => some '\t'
        | _ => none
      match plain with
      | some c => readQuoted? fuel (c :: read) rest
      | none => none
    | c :: rest => if c.toNat < 0x20 then none else readQuoted? fuel (c :: read) rest

/-- The number that digits stand for. -/
def naturalOf (digits : List Char) : Nat :=
  digits.foldl (fun n d => 10 * n + (d.toNat - '0'.toNat)) 0

/-- The exponent after the letter `e`, if there is one. -/
def readExponent? (cs : List Char) : Option (Option Int × List Char) :=
  match cs with
  | e :: rest =>
    if e == 'e' || e == 'E' then
      let (negative, rest) := match rest with
        | '-' :: more => (true, more)
        | '+' :: more => (false, more)
        | _ => (false, rest)
      let digits := rest.takeWhile Char.isDigit
      if digits.isEmpty then none
      else
        let n : Int := naturalOf digits
        some (some (if negative then -n else n), rest.dropWhile Char.isDigit)
    else some (none, cs)
  | [] => some (none, [])

/-- The digits after the point, if there is one. -/
def readFraction? (cs : List Char) : Option (Option (List Char) × List Char) :=
  match cs with
  | '.' :: rest =>
    let digits := rest.takeWhile Char.isDigit
    if digits.isEmpty then none else some (some digits, rest.dropWhile Char.isDigit)
  | _ => some (none, cs)

/-- A number with further digits as far as it stays within 64 bits, and how many of them were
taken. -/
def absorb (n : Nat) : List Char → Nat × Nat
  | [] => (n, 0)
  | d :: rest =>
    let m := 10 * n + (d.toNat - '0'.toNat)
    if m < 1 <<< 64 then
      let (total, taken) := absorb m rest
      (total, taken + 1)
    else
      (n, 0)

/-- A number and the rest. Digits beyond 64 bits count only by their places. -/
def readNumber? (cs : List Char) : Option (Json × List Char) := do
  let (negative, cs) := match cs with
    | '-' :: rest => (true, rest)
    | _ => (false, cs)
  let whole := cs.takeWhile Char.isDigit
  if whole.isEmpty || (whole.head? == some '0' && 1 < whole.length) then none
  else
    let (fraction, rest) ← readFraction? (cs.dropWhile Char.isDigit)
    let (exponent, rest) ← readExponent? rest
    let n := naturalOf whole
    let exact := fraction.isNone && exponent.isNone &&
      (if negative then 0 < n && n ≤ 1 <<< 63 else n < 1 <<< 64)
    if exact then
      some (.int (if negative then -(n : Int) else n), rest)
    else
      let (head, taken) := absorb 0 whole
      let (digits, places) := absorb head (fraction.getD [])
      let scale : Int := (whole.length - taken : Nat) - (places : Int) + exponent.getD 0
      let d ← Decimal.ofDigits? negative digits scale
      some (.real d, rest)

mutual

/-- A value and the rest, with `fuel` bounding the depth and the number of values. -/
def readValue? (fuel : Nat) (cs : List Char) : Option (Json × List Char) :=
  match fuel with
  | 0 => none
  | fuel + 1 =>
    match skipBlanks cs with
    | 'n' :: 'u' :: 'l' :: 'l' :: rest => some (.null, rest)
    | 't' :: 'r' :: 'u' :: 'e' :: rest => some (.bool true, rest)
    | 'f' :: 'a' :: 'l' :: 's' :: 'e' :: rest => some (.bool false, rest)
    | '"' :: rest => (readQuoted? (rest.length + 1) [] rest).map fun (s, rest) => (.text s, rest)
    | '[' :: rest =>
      match skipBlanks rest with
      | ']' :: rest => some (.list [], rest)
      | rest => readItems? fuel [] rest
    | '\x7b' :: rest =>
      match skipBlanks rest with
      | '\x7d' :: rest => some (.object [], rest)
      | rest => readMembers? fuel [] rest
    | cs => readNumber? cs

/-- The items of an array up to its closing bracket, given those already read. -/
def readItems? (fuel : Nat) (items : List Json) (cs : List Char) : Option (Json × List Char) :=
  match fuel with
  | 0 => none
  | fuel + 1 => do
    let (item, rest) ← readValue? fuel cs
    match skipBlanks rest with
    | ',' :: rest => readItems? fuel (item :: items) rest
    | ']' :: rest => some (.list (item :: items).reverse, rest)
    | _ => none

/-- The members of an object up to its closing brace, given those already read. -/
def readMembers? (fuel : Nat) (members : List (String × Json)) (cs : List Char) :
    Option (Json × List Char) :=
  match fuel with
  | 0 => none
  | fuel + 1 =>
    match skipBlanks cs with
    | '"' :: rest => do
      let (name, rest) ← readQuoted? (rest.length + 1) [] rest
      match skipBlanks rest with
      | ':' :: rest =>
        let (value, rest) ← readValue? fuel rest
        match skipBlanks rest with
        | ',' :: rest => readMembers? fuel (withMember members name value) rest
        | '\x7d' :: rest => some (.object (withMember members name value), rest)
        | _ => none
      | _ => none
    | _ => none

end

/-- The value that a text stands for, if it is a JSON text. -/
def read? (s : String) : Option Json :=
  match readValue? (2 * s.length + 2) s.toList with
  | some (value, rest) => if (skipBlanks rest).isEmpty then some value else none
  | none => none

end RelationGateway.Json
