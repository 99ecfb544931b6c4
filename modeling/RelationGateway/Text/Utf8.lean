/-!
# UTF-8

Texts are written as UTF-8. Bytes are read back leniently: whatever cannot be read as UTF-8 is
replaced, each longest start of a character that breaks off by one replacement character.
-/

namespace RelationGateway.Utf8

/-- The bytes of a text. -/
def encode (s : String) : List UInt8 :=
  s.toList.flatMap String.utf8EncodeChar

/-- A character whose first bytes have been read: how many bytes are still owed, the least and
the greatest byte that may come next, and the value of the bits read so far. -/
structure Partial where
  /-- The number of bytes still to come. -/
  owed : Nat
  /-- The least byte that may come next. -/
  low : UInt8
  /-- The greatest byte that may come next. -/
  high : UInt8
  /-- The bits read so far. -/
  value : Nat
deriving DecidableEq

/-- What has been read: the finished characters in reverse and the open one, if any. -/
structure Progress where
  /-- The characters read, the last one first. -/
  read : List Char := []
  /-- The character whose first bytes have been read. -/
  open? : Option Partial := none
deriving DecidableEq

/-- The character that stands for bytes that cannot be read. -/
def replacement : Char := '\uFFFD'

/-- Reads the first byte of a character. -/
def Progress.begin (read : List Char) (b : UInt8) : Progress :=
  if b < 0x80 then ⟨Char.ofNat b.toNat :: read, none⟩
  else if 0xC2 ≤ b && b ≤ 0xDF then ⟨read, some ⟨1, 0x80, 0xBF, b.toNat % 0x20⟩⟩
  else if b == 0xE0 then ⟨read, some ⟨2, 0xA0, 0xBF, 0⟩⟩
  else if b == 0xED then ⟨read, some ⟨2, 0x80, 0x9F, 0xD⟩⟩
  else if 0xE1 ≤ b && b ≤ 0xEF then ⟨read, some ⟨2, 0x80, 0xBF, b.toNat % 0x10⟩⟩
  else if b == 0xF0 then ⟨read, some ⟨3, 0x90, 0xBF, 0⟩⟩
  else if 0xF1 ≤ b && b ≤ 0xF3 then ⟨read, some ⟨3, 0x80, 0xBF, b.toNat % 8⟩⟩
  else if b == 0xF4 then ⟨read, some ⟨3, 0x80, 0x8F, 4⟩⟩
  else ⟨replacement :: read, none⟩

/-- Reads one more byte. A byte that cannot continue the open character closes it as
unreadable and begins a character itself. -/
def Progress.feed (p : Progress) (b : UInt8) : Progress :=
  match p.open? with
  | none => Progress.begin p.read b
  | some c =>
    if c.low ≤ b && b ≤ c.high then
      let value := c.value * 0x40 + b.toNat % 0x40
      if c.owed ≤ 1 then ⟨Char.ofNat value :: p.read, none⟩
      else ⟨p.read, some ⟨c.owed - 1, 0x80, 0xBF, value⟩⟩
    else
      Progress.begin (replacement :: p.read) b

/-- The characters read when the bytes have come to an end. -/
def Progress.finish (p : Progress) : List Char :=
  match p.open? with
  | none => p.read.reverse
  | some _ => (replacement :: p.read).reverse

/-- The text that bytes stand for, with replacement characters where they stand for none. -/
def decode (bytes : List UInt8) : String :=
  String.ofList (bytes.foldl Progress.feed {}).finish

/-- The text that bytes stand for, if all of them can be read. -/
def decode? (bytes : List UInt8) : Option String :=
  let text := decode bytes
  if encode text = bytes then some text else none

end RelationGateway.Utf8
