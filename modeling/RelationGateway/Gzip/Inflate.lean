import RelationGateway.Gzip.Huffman

/-!
# Expanding compressed data

Compressed data is a row of blocks. A block holds bytes as they are, or words of two prefix
codes: a word of the first is a byte, the end of the block, or the length of a copy, after
which a word of the second tells how far back the copied bytes stand. Before the first byte
stand zeros.

Expanding is a row of steps, each of which reads at least one bit or moves to the next block.
-/

namespace RelationGateway.Gzip

/-- What is being read. -/
inductive Phase where
  /-- The head of a block. -/
  | head
  /-- The bytes of a block that holds them as they are, with the number still to come. -/
  | plain (left : Nat) (last : Bool)
  /-- The words of a block. -/
  | words (lengths distances : PrefixCode) (last : Bool)
  /-- Nothing more: the data is at its end. -/
  | done
  /-- Nothing more: the data ends too soon or has no meaning. -/
  | failed (fault : Fault)

/-- The phase after a block. -/
def Phase.after (last : Bool) : Phase := if last then .done else .head

/-- What one step adds to the expanded bytes. -/
inductive Piece where
  /-- Nothing. -/
  | nothing
  /-- One byte. -/
  | byte (value : Nat)
  /-- A copy of bytes that stand some distance back. -/
  | copy (distance length : Nat)
deriving DecidableEq, Repr

/-- Compressed data read up to some bit. -/
structure Inflation where
  /-- The place in the compressed data. -/
  bits : Bits
  /-- The bytes expanded so far. -/
  out : Array UInt8 := #[]
  /-- What is being read. -/
  phase : Phase := .head

/-- The least length or distance of each symbol and the number of further bits. -/
abbrev Steps := Array (Nat × Nat)

/-- The lengths of copies, for the symbols from 257 on. -/
def copyLengths : Steps :=
  #[(3, 0), (4, 0), (5, 0), (6, 0), (7, 0), (8, 0), (9, 0), (10, 0), (11, 1), (13, 1), (15, 1),
    (17, 1), (19, 2), (23, 2), (27, 2), (31, 2), (35, 3), (43, 3), (51, 3), (59, 3), (67, 4),
    (83, 4), (99, 4), (115, 4), (131, 5), (163, 5), (195, 5), (227, 5), (258, 0)]

/-- The distances of copies. -/
def copyDistances : Steps :=
  #[(1, 0), (2, 0), (3, 0), (4, 0), (5, 1), (7, 1), (9, 2), (13, 2), (17, 3), (25, 3), (33, 4),
    (49, 4), (65, 5), (97, 5), (129, 6), (193, 6), (257, 7), (385, 7), (513, 8), (769, 8),
    (1025, 9), (1537, 9), (2049, 10), (3073, 10), (4097, 11), (6145, 11), (8193, 12),
    (12289, 12), (16385, 13), (24577, 13)]

/-- The number that a symbol and its further bits stand for. -/
def readStep (steps : Steps) (symbol : Nat) (bits : Bits) : Except Fault (Nat × Bits) :=
  match steps[symbol]? with
  | some (least, extra) => do
    let (more, bits) ← bits.take extra
    .ok (least + more, bits)
  | none => .error .corrupt

/-- The word lengths of the fixed code of bytes and copy lengths. -/
def fixedLengths : List Nat :=
  List.replicate 144 8 ++ List.replicate 112 9 ++ List.replicate 24 7 ++ List.replicate 8 8

/-- A code of these word lengths, or data without meaning. -/
def codeOf (sparse : Bool) (lengths : List Nat) : Except Fault PrefixCode :=
  match PrefixCode.ofLengths? sparse lengths with
  | some code => .ok code
  | none => .error .corrupt

/-- The order in which the word lengths of the code of word lengths are given. -/
def lengthOrder : List Nat := [16, 17, 18, 0, 8, 7, 9, 6, 10, 5, 11, 4, 12, 3, 13, 2, 14, 1, 15]

/-- Reads `n` numbers of three bits. -/
def readTriples : Nat → Bits → Except Fault (List Nat × Bits)
  | 0, bits => .ok ([], bits)
  | n + 1, bits => do
    let (first, bits) ← bits.take 3
    let (rest, bits) ← readTriples n bits
    .ok (first :: rest, bits)

/-- Reads word lengths until there are `total`, given those read in reverse. A word stands for
one length, for repeats of the length before, or for a run of zeros. -/
def readLengths (code : PrefixCode) (total : Nat) :
    (fuel : Nat) → List Nat → Bits → Except Fault (List Nat × Bits)
  | 0, _, _ => .error .corrupt
  | fuel + 1, read, bits =>
    if read.length = total then .ok (read.reverse, bits)
    else if total < read.length then .error .corrupt
    else do
      let (symbol, bits) ← code.read bits
      if symbol < 16 then readLengths code total fuel (symbol :: read) bits
      else if symbol = 16 then
        match read with
        | [] => .error .corrupt
        | last :: _ =>
          let (n, bits) ← bits.take 2
          readLengths code total fuel (List.replicate (n + 3) last ++ read) bits
      else
        let (n, bits) ← if symbol = 17 then bits.take 3 else bits.take 7
        let run := n + (if symbol = 17 then 3 else 11)
        readLengths code total fuel (List.replicate run 0 ++ read) bits

/-- Reads the word lengths of the two codes of a block that brings its own, of which the first
has `n` symbols and the second `m`. They are words of a code of which `k` word lengths come
before. -/
def readCodeLengths (n m k : Nat) (bits : Bits) : Except Fault ((List Nat × List Nat) × Bits) := do
  let (triples, bits) ← readTriples k bits
  let given := lengthOrder.zip triples
  -- The code of word lengths may not be sparse; lengths not given are zero.
  let code ← codeOf false ((List.range 19).map fun i => (given.lookup i).getD 0)
  -- The lengths of both codes are one row, so that a repetition may run across.
  let (lengths, bits) ← readLengths code (n + m) (n + m + 1) [] bits
  .ok ((lengths.take n, lengths.drop n), bits)

/-- Reads the two codes of a block that brings its own. There may not be more symbols than have
a meaning. -/
def readCodes (bits : Bits) : Except Fault ((PrefixCode × PrefixCode) × Bits) := do
  let (n, bits) ← bits.take 5
  let (m, bits) ← bits.take 5
  let (k, bits) ← bits.take 4
  if 286 < n + 257 ∨ 30 < m + 1 then .error .corrupt
  else
    let ((first, second), bits) ← readCodeLengths (n + 257) (m + 1) (k + 4) bits
    let first ← codeOf true first
    let second ← codeOf true second
    .ok ((first, second), bits)

/-- Reads the head of a block. -/
def readHead (bits : Bits) : Except Fault (Phase × Bits) := do
  let (last, bits) ← bits.take 1
  let (kind, bits) ← bits.take 2
  match kind with
  | 0 =>
    -- The length is given twice, the second time with all bits inverted.
    let (length, bits) ← bits.align.take 16
    let (inverse, bits) ← bits.take 16
    if length + inverse = 0xFFFF then .ok (.plain length (last == 1), bits)
    else .error .corrupt
  | 1 =>
    let first ← codeOf true fixedLengths
    let second ← codeOf true (List.replicate 32 5)
    .ok (.words first second (last == 1), bits)
  | 2 =>
    let ((first, second), bits) ← readCodes bits
    .ok (.words first second (last == 1), bits)
  | _ => .error .corrupt

/-- Reads one word of a block and what belongs to it. -/
def readWord (first second : PrefixCode) (last : Bool) (bits : Bits) :
    Except Fault (Piece × Phase × Bits) := do
  let (symbol, bits) ← first.read bits
  if symbol < 256 then .ok (.byte symbol, .words first second last, bits)
  else if symbol = 256 then .ok (.nothing, .after last, bits)
  else
    let (length, bits) ← readStep copyLengths (symbol - 257) bits
    let (symbol, bits) ← second.read bits
    let (distance, bits) ← readStep copyDistances symbol bits
    .ok (.copy distance length, .words first second last, bits)

/-- Reads one step: the head of a block, one byte, or one word. -/
def readPiece (bits : Bits) : Phase → Except Fault (Piece × Phase × Bits)
  | .head => do
    let (phase, bits) ← readHead bits
    .ok (.nothing, phase, bits)
  | .plain 0 last => .ok (.nothing, .after last, bits)
  | .plain (left + 1) last => do
    let (byte, bits) ← bits.take 8
    .ok (.byte byte, .plain left last, bits)
  | .words first second last => readWord first second last bits
  | .done => .ok (.nothing, .done, bits)
  | .failed fault => .error fault

/-- Adds `length` bytes that stand `distance` back. -/
def copyBack (distance : Nat) : (length : Nat) → Array UInt8 → Array UInt8
  | 0, out => out
  | n + 1, out =>
    let byte := if distance ≤ out.size then out.getD (out.size - distance) 0 else 0
    copyBack distance n (out.push byte)

/-- The expanded bytes with a piece added. -/
def Piece.addTo (out : Array UInt8) : Piece → Array UInt8
  | .nothing => out
  | .byte value => out.push (UInt8.ofNat value)
  | .copy distance length => copyBack distance length out

namespace Inflation

/-- One step. -/
def step (s : Inflation) : Inflation :=
  match readPiece s.bits s.phase with
  | .ok (piece, phase, bits) => { bits, phase, out := piece.addTo s.out }
  | .error fault => { s with phase := .failed fault }

/-- The data is at its end. -/
def isDone (s : Inflation) : Bool :=
  match s.phase with
  | .done => true
  | _ => false

/-- Why the data cannot be read on, if it cannot. -/
def fault? (s : Inflation) : Option Fault :=
  match s.phase with
  | .failed fault => some fault
  | _ => none

/-- Runs until the data ends, a step fails, or more than `enough` bytes are there. -/
def run (enough : Nat) : (fuel : Nat) → Inflation → Inflation
  | 0, s => { s with phase := .failed .incomplete }
  | fuel + 1, s =>
    if s.isDone || s.fault?.isSome || enough < s.out.size then s else run enough fuel s.step

/-- Runs until the data ends or a step fails, however many bytes are there. -/
def runToEnd : (fuel : Nat) → Inflation → Inflation
  | 0, s => { s with phase := .failed .incomplete }
  | fuel + 1, s => if s.isDone || s.fault?.isSome then s else runToEnd fuel s.step

/-- A number of steps that no run on the bytes exceeds. -/
def stepBound (s : Inflation) : Nat := 16 * s.bits.bytes.size + 3

/-- Expands compressed data up to its end, a fault, or more than `enough` bytes. -/
def expand (enough : Nat) (s : Inflation) : Inflation := run enough s.stepBound s

/-- Expands compressed data up to its end or a fault. -/
def expandAll (s : Inflation) : Inflation := runToEnd s.stepBound s

end Inflation

end RelationGateway.Gzip
