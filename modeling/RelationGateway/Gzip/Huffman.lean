import RelationGateway.Gzip.Bits

/-!
# Canonical prefix codes

A code is given by the length of the word of each symbol, zero for a symbol without a word.
Words of one length are consecutive numbers in the order of their symbols, and every longer
word comes after the shorter ones.
-/

namespace RelationGateway.Gzip

/-- A canonical prefix code. -/
structure PrefixCode where
  /-- The number of words of each length, from one to that of the longest. -/
  counts : List Nat
  /-- The symbols in the order of their words. -/
  symbols : Array Nat

namespace PrefixCode

/-- The symbols whose words have the given length, in order. -/
def ofLength (lengths : List Nat) (length : Nat) : List Nat :=
  lengths.zipIdx.filterMap fun (l, symbol) => if l = length then some symbol else none

/-- The share of all words of fifteen bits that begin with a word of the code. -/
def share (counts : List Nat) : Nat :=
  counts.zipIdx.foldl (fun sum (count, i) => sum + count <<< (14 - i)) 0

/-- The code with the given word lengths. A code must use every word of fifteen bits; where
`sparse` allows it, a code may also have no word at all or a single one of one bit. -/
def ofLengths? (sparse : Bool) (lengths : List Nat) : Option PrefixCode :=
  -- An unused word is known by as many bits as the longest word has, or by one.
  let longest := lengths.foldl max 1
  let groups := (List.range longest).map fun i => ofLength lengths (i + 1)
  let counts := groups.map List.length
  if share counts = 1 <<< 15 ∨ (sparse ∧ (counts = [0] ∨ counts = [1])) then
    some { counts, symbols := groups.flatten.toArray }
  else
    none

/-- Reads the rest of a word: `word` is the number made of the bits read so far, `first` the
first word of this length, and `index` the number of shorter words. -/
def readFrom (symbols : Array Nat) :
    List Nat → (word first index : Nat) → Bits → Except Fault (Nat × Bits)
  | [], _, _, _, _ => .error .corrupt
  | count :: longer, word, first, index, bits => do
    let (bit, bits) ← bits.next
    let word := word + bit
    if word < first + count then
      match symbols[index + (word - first)]? with
      | some symbol => .ok (symbol, bits)
      | none => .error .corrupt
    else
      readFrom symbols longer (2 * word) (2 * (first + count)) (index + count) bits

/-- Reads the word of a symbol. -/
def read (code : PrefixCode) (bits : Bits) : Except Fault (Nat × Bits) :=
  readFrom code.symbols code.counts 0 0 0 bits

end PrefixCode

end RelationGateway.Gzip
