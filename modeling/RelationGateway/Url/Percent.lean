import RelationGateway.Delimited
import RelationGateway.Text.Utf8

/-!
# Percent escapes

In a URL a byte may be written as `%` and two hexadecimal digits. In query strings and forms a
space may also be written as `+`.

* `encode` — writes a text for a query string or a form;
* `decode` — reads such a text;
* `decodeSegment` — reads a path segment, where `+` stands for itself.

A `%` without two hexadecimal digits after it stands for itself.
-/

namespace RelationGateway.Url

/-- The value of a byte that is a hexadecimal digit. -/
def hexValue? (b : UInt8) : Option UInt8 :=
  if 0x30 ≤ b && b ≤ 0x39 then some (b - 0x30)
  else if 0x41 ≤ b && b ≤ 0x46 then some (b - 0x37)
  else if 0x61 ≤ b && b ≤ 0x66 then some (b - 0x57)
  else none

/-- The escape that has been begun. -/
inductive Begun where
  /-- None. -/
  | none
  /-- The percent sign has been read. -/
  | sign
  /-- The percent sign and a first digit have been read, the digit of the given value. -/
  | digit (b value : UInt8)
deriving DecidableEq

/-- What has been read: the finished bytes in reverse and the escape that has been begun. -/
structure Unescaping where
  /-- The bytes read, the last one first. -/
  read : List UInt8 := []
  /-- The escape that has been begun. -/
  begun : Begun := .none
deriving DecidableEq

/-- Reads a byte that belongs to no escape begun before. -/
def Unescaping.fresh (read : List UInt8) (b : UInt8) : Unescaping :=
  if b == 0x25 then ⟨read, .sign⟩ else ⟨b :: read, .none⟩

/-- Reads one more byte. -/
def Unescaping.feed (u : Unescaping) (b : UInt8) : Unescaping :=
  match u.begun with
  | .none => fresh u.read b
  | .sign =>
    match hexValue? b with
    | some value => ⟨u.read, .digit b value⟩
    | none => fresh (0x25 :: u.read) b
  | .digit first high =>
    match hexValue? b with
    | some low => ⟨(high * 16 + low) :: u.read, .none⟩
    | none => fresh (first :: 0x25 :: u.read) b

/-- The bytes read when the text has come to an end. -/
def Unescaping.finish (u : Unescaping) : List UInt8 :=
  match u.begun with
  | .none => u.read.reverse
  | .sign => (0x25 :: u.read).reverse
  | .digit first _ => (first :: 0x25 :: u.read).reverse

/-- The bytes with every escape replaced by the byte it stands for. -/
def unescape (bytes : List UInt8) : List UInt8 :=
  (bytes.foldl Unescaping.feed {}).finish

/-- The text that a path segment stands for. -/
def decodeSegment (s : String) : String := Utf8.decode (unescape (Utf8.encode s))

/-- The text that a name or a value of a query string stands for. -/
def decode (s : String) : String := decodeSegment (Text.substitute '+' ' ' s)

/-- The characters that are written as escapes although they are visible. -/
def reserved : List Char := "%!*'();:@&=+$,/?#[]".toList

/-- The byte stands for itself: it is a visible ASCII character that is not reserved. -/
def isPlain (b : UInt8) : Bool :=
  0x21 ≤ b && b ≤ 0x7E && !reserved.contains (Char.ofNat b.toNat)

/-- A capital hexadecimal digit. -/
def hexDigit (n : Nat) : Char :=
  if n < 10 then Char.ofNat ('0'.toNat + n) else Char.ofNat ('A'.toNat + (n - 10))

/-- A byte as it is written. -/
def escape (b : UInt8) : List Char :=
  if b == 0x20 then ['+']
  else if isPlain b then [Char.ofNat b.toNat]
  else ['%', hexDigit (b.toNat / 16), hexDigit (b.toNat % 16)]

/-- The text written for a query string or a form. -/
def encode (s : String) : String := String.ofList ((Utf8.encode s).flatMap escape)

end RelationGateway.Url
