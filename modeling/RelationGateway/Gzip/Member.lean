import RelationGateway.Feed
import RelationGateway.Gzip.Checksum
import RelationGateway.Gzip.Inflate

/-!
# Gzip members

A member is a header, compressed data, and a trailer with the checksum and the length of what
the data expands to. Only the first member of a body is read.

A member comes in as chunks of 32768 bytes, and expanded bytes come out in windows of as many.
Where the data has no meaning, what was being made of its chunk and of its window is lost.
-/

namespace RelationGateway.Gzip

/-- Some bytes and the rest, or bytes that end too soon. -/
def takeBytes (n : Nat) (bytes : List UInt8) : Except Fault (List UInt8 × List UInt8) :=
  if bytes.length < n then .error .truncated else .ok (bytes.take n, bytes.drop n)

/-- The number that bytes stand for, the least first. -/
def littleEndian (bytes : List UInt8) : Nat := bytes.foldr (fun b n => b.toNat + 256 * n) 0

/-- The bytes after a text that ends with a zero. -/
def skipText : List UInt8 → Except Fault (List UInt8)
  | [] => .error .truncated
  | b :: rest => if b == 0 then .ok rest else skipText rest

/-- The bit of a header's flags with the given value. -/
def flagged (flags bit : UInt8) : Bool := flags &&& bit != 0

/-- The bytes after the extra field, if the flags announce one. -/
def skipExtra (flags : UInt8) (bytes : List UInt8) : Except Fault (List UInt8) :=
  if flagged flags 4 then do
    let (length, rest) ← takeBytes 2 bytes
    let (_, rest) ← takeBytes (littleEndian length) rest
    .ok rest
  else
    .ok bytes

/-- The bytes after a text, if the flags announce it by the given bit. -/
def skipFlagged (flags bit : UInt8) (bytes : List UInt8) : Except Fault (List UInt8) :=
  if flagged flags bit then skipText bytes else .ok bytes

/-- The bytes after the header of a member. -/
def readHeader (bytes : List UInt8) : Except Fault (List UInt8) := do
  let (fixed, rest) ← takeBytes 10 bytes
  let flags := fixed.getD 3 0
  if fixed.take 3 ≠ [0x1F, 0x8B, 8] ∨ flagged flags 0xE0 then .error .badHeader
  else
    let rest ← skipExtra flags rest
    let rest ← skipFlagged flags 8 rest
    let rest ← skipFlagged flags 16 rest
    if flagged flags 2 then
      let header := bytes.take (bytes.length - rest.length)
      let (sum, rest) ← takeBytes 2 rest
      if littleEndian sum = (crc32 header).toNat % 1 <<< 16 then .ok rest else .error .mismatch
    else
      .ok rest

/-- Compares the trailer with what the data expanded to. -/
def checkTrailer (expanded trailer : List UInt8) : Except Fault Unit := do
  let (sum, rest) ← takeBytes 4 trailer
  let (length, _) ← takeBytes 4 rest
  if littleEndian sum = (crc32 expanded).toNat ∧
      littleEndian length = expanded.length % 1 <<< 32 then
    .ok ()
  else
    .error .mismatch

/-! ## What comes out of a member -/

/-- The number of bytes in a chunk of a member, and in a window of expanded bytes. -/
def windowSize : Nat := 32768

/-- The number of bytes in the windows that hold at least `n` bytes. -/
def windowsFor (n : Nat) : Nat := (n + windowSize - 1) / windowSize * windowSize

namespace Inflation

/-- The start of the data of a member, of which `rest` is left behind the header. -/
def ofMember (member rest : List UInt8) : Inflation :=
  { bits := { bytes := member.toArray, position := 8 * (member.length - rest.length) } }

/-- The data expanded as far as the first `chunks` chunks of its bytes go. -/
def expandChunks (chunks : Nat) (start : Inflation) : Inflation :=
  let bytes := start.bits.bytes.extract 0 (chunks * windowSize)
  expandAll { start with bits := { start.bits with bytes } }

/-- The number of bytes that come of the chunks before the one in which the fault comes to light
that ended the data at `s`. -/
def settled (start s : Inflation) : Nat :=
  let chunk := s.bits.position / 8 / windowSize
  -- What is faulty begins in this chunk, and may come to light in the next one.
  let further := start.expandChunks (chunk + 1)
  if further.fault? = some .corrupt then (start.expandChunks chunk).out.size else further.out.size

/-- The number of bytes that come out of data that is expanded up to `s`. Where it has no meaning,
they are those of full windows and of earlier chunks. -/
def delivered (start s : Inflation) : Nat :=
  if s.fault? = some .corrupt then
    min s.out.size (max ((s.out.size - 1) / windowSize * windowSize) (settled start s))
  else s.out.size

/-- The bytes that come out of data that is expanded to its end or a fault, and what comes behind
them. -/
def feed (start : Inflation) : Feed Fault :=
  let s := start.expandAll
  match s.fault? with
  | some fault => { bytes := s.out.toList.take (start.delivered s), broken := some fault }
  | none =>
    { bytes := s.out.toList
      broken := match checkTrailer s.out.toList s.bits.remaining with
        | .error fault => some fault
        | .ok () => none }

/-- The first bytes of data that is expanded up to `s`. A fault counts only if it comes before them;
the trailer is compared only if there are fewer. -/
def readOut (limit : Nat) (start s : Inflation) : Except Fault (List UInt8) :=
  if limit ≤ start.delivered s then .ok (s.out.toList.take limit)
  else
    match s.fault? with
    | some fault => .error fault
    | none => (checkTrailer s.out.toList s.bits.remaining).map fun _ => s.out.toList

end Inflation

/-- What comes out of a member: the expanded bytes, and the fault that comes behind them if there is
one, be it in the header, in the data or in the trailer. -/
def feed (member : List UInt8) : Feed Fault :=
  match readHeader member with
  | .error fault => { bytes := [], broken := some fault }
  | .ok rest => (Inflation.ofMember member rest).feed

/-- The first `limit` bytes that come out of a member. The data is not expanded further than is
needed for them. -/
def expand (limit : Nat) (member : List UInt8) : Except Fault (List UInt8) :=
  if limit = 0 then .ok []
  else
    match readHeader member with
    | .error fault => .error fault
    | .ok rest =>
      let start := Inflation.ofMember member rest
      start.readOut limit (start.expand (windowsFor limit))

end RelationGateway.Gzip
