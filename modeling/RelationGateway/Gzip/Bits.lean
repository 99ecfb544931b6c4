/-!
# Reading bits

Bytes are read bit by bit, the least bit of each byte first. Reading fails in two ways: the
bytes come to an end, or what they hold has no meaning.
-/

namespace RelationGateway.Gzip

/-- Why compressed bytes cannot be expanded. -/
inductive Fault where
  /-- The bytes end inside the header or the trailer. -/
  | truncated
  /-- The header is not a header. -/
  | badHeader
  /-- The bytes end inside the compressed data. -/
  | incomplete
  /-- The compressed data has no meaning. -/
  | corrupt
  /-- A checksum or the length does not agree. -/
  | mismatch
deriving DecidableEq, Repr

/-- The fault in words. -/
def Fault.message : Fault → String
  | .truncated => "unexpected end of file"
  | .badHeader => "invalid gzip header"
  | .incomplete => "incomplete deflate stream"
  | .corrupt => "corrupt deflate stream"
  | .mismatch => "corrupt gzip stream does not have a matching checksum"

/-- A place in a row of bytes, counted in bits. -/
structure Bits where
  /-- The bytes. -/
  bytes : Array UInt8
  /-- The number of bits already read. -/
  position : Nat := 0

namespace Bits

/-- The next bit and the place after it. -/
def next (b : Bits) : Except Fault (Nat × Bits) :=
  match b.bytes[b.position / 8]? with
  | some byte =>
    .ok (byte.toNat >>> (b.position % 8) % 2, { b with position := b.position + 1 })
  | none => .error .incomplete

/-- The number made of the next `n` bits, the least first, and the place after them. -/
def take : Nat → Bits → Except Fault (Nat × Bits)
  | 0, b => .ok (0, b)
  | n + 1, b => do
    let (low, b) ← b.next
    let (high, b) ← take n b
    .ok (low + 2 * high, b)

/-- The place at the start of the next byte. -/
def align (b : Bits) : Bits := { b with position := (b.position + 7) / 8 * 8 }

/-- The bytes from the next byte on. -/
def remaining (b : Bits) : List UInt8 := b.bytes.toList.drop (b.align.position / 8)

end Bits

end RelationGateway.Gzip
