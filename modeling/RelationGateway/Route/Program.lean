import RelationGateway.Route.StateTable
import RelationGateway.Text.ByteRows

/-!
# Matching programs

A matching program is made of states that read bytes, numbered as they are added. Here it is only
as large as it gets: a state takes 32 bytes, a fork four more for each way out, and a state that
reads one of several ranges of bytes eight more for each range.

A program grows by parts, one after the other. What stands before a part leads to it; where that
ends in a fork, it is by one more way out.

* `Program.add`, `Program.repeated` — the program with states, or with a part so many times;
* `Program.addClass` — the program with what reads one character of some ranges;
* `Program.addWords` — the program with what reads one of some words.
-/

namespace RelationGateway

/-- How large a program has grown. -/
structure Program where
  /-- The number of states. -/
  states : Nat := 0
  /-- The number of ways out of forks. -/
  ways : Nat := 0
  /-- The number of ranges of states that read one of several. -/
  ranges : Nat := 0
  /-- The last part ends in a fork from which no way leads on yet. -/
  forked : Bool := false
deriving DecidableEq, Repr

namespace Program

/-- The bytes that a program takes. -/
def bytes (p : Program) : Nat := 32 * p.states + 4 * p.ways + 8 * p.ranges

/-- The greatest number of bytes of a program. -/
def limit : Nat := 10 <<< 20

/-- The program is too large, and so is whatever it grows into. -/
def isFull (p : Program) : Bool := limit < p.bytes

/-- The program with a way on. -/
def lead (p : Program) : Program :=
  { p with ways := p.ways + p.forked.toNat, forked := false }

/-- The program with some states, ways and ranges. -/
def add (p : Program) (states : Nat) (ways : Nat := 0) (ranges : Nat := 0) : Program :=
  let p := p.lead
  { p with states := p.states + states, ways := p.ways + ways, ranges := p.ranges + ranges }

/-- The program with more ways out of a fork that it has. -/
def addWays (p : Program) (ways : Nat) : Program := { p with ways := p.ways + ways }

/-- The program that goes on from a fork that it has. -/
def fork (p : Program) : Program := { p.lead with forked := true }

/-- The program with a part so many times, or as often as it takes to be too large. -/
def repeated (part : Program → Program) : (times : Nat) → Program → Program
  | 0, p => p
  | n + 1, p => if p.isFull then p else repeated part n (part p)

/-! ## One character -/

/-- Some states of a program that may be used again, and the program. -/
abbrev Shared := StateTable × Program

/-- A state with a description: one added before, or a new one with some ranges. -/
def shared (description : List Nat) (ranges : Nat) (s : Shared) : Nat × Shared :=
  match s.1.find? description with
  | some state => (state, s)
  | none =>
    let state := s.2.states
    (state, s.1.insert description state, s.2.add 1 0 ranges)

/-- The first ranges of rows, and what follows each. Rows side by side with the same first range
are taken together. -/
def groupRows : List (List Text.ByteRange) → List (Text.ByteRange × List (List Text.ByteRange))
  | [] => []
  | [] :: rows => groupRows rows
  | (head :: tail) :: rows =>
    match groupRows rows with
    | (head', tails) :: groups =>
      if head = head' then (head, tail :: tails) :: groups
      else (head, [tail]) :: (head', tails) :: groups
    | [] => [(head, [tail])]

/-- A state that reads one of some rows of at most so many bytes forwards, and goes on to the
target. Rows that go on alike share the states for what is left. -/
def rowsForward (target : Nat) : (bytes : Nat) → List (List Text.ByteRange) → Shared → Nat × Shared
  | 0, _, s => (target, s)
  | bytes + 1, rows, s =>
    if rows.all List.isEmpty then (target, s)
    else
      let groups := groupRows rows
      let (description, s) := groups.foldl (fun (description, s) (range, tails) =>
        let (next, s) := rowsForward target bytes tails s
        (description ++ [range.1, range.2, next], s)) ([], s)
      shared description groups.length s

/-- The states that read a row backwards, from the given state on. Rows that begin alike share
the states for their beginnings. -/
def rowBackward : (state : Nat) → List Text.ByteRange → Shared → Shared
  | _, [], s => s
  | state, range :: row, s =>
    let (next, s) := shared [state, range.1, range.2] 0 s
    rowBackward next row s

/-- The program with what reads a character of some canonical ranges. Characters of one byte are
read by one state; otherwise, to read backwards, a fork has a way for each row of bytes. -/
def addClass (p : Program) (backward : Bool) (ranges : List Text.Range) : Program :=
  if ranges.all (·.2 ≤ 0x7F) then p.add 2 0 ranges.length
  else
    let rows := ranges.flatMap Text.byteRows
    if backward then
      let p := p.add 2 rows.length
      (rows.foldl (fun s row => rowBackward (p.states - 1) row s) (⟨1000, ∅⟩, p)).2
    else
      let p := p.add 1
      (rowsForward (p.states - 1) 4 rows (⟨10000, ∅⟩, p)).2.2

/-! ## Several words -/

/-- The words before the first empty one, those before the next, and so on. -/
def cutAtEnds : List (List UInt8) → List (List (List UInt8))
  | [] => [[]]
  | [] :: words => [] :: cutAtEnds words
  | word :: words =>
    match cutAtEnds words with
    | first :: rest => (word :: first) :: rest
    | [] => [[word]]

/-- What follows each first byte of some words. -/
def byFirstByte (words : List (List UInt8)) : List (List (List UInt8)) :=
  (words.filterMap List.head?).eraseDups.map fun byte =>
    words.filterMap fun word => if word.head? = some byte then some word.tail else none

/-- The program with the states that read one of some words of at most so many bytes. Where a
word goes on there is a fork, with a way for each word that ends and a way to each state that
reads the first byte of those in between. -/
def addTree : (bytes : Nat) → List (List UInt8) → Program → Program
  | 0, _, p => p
  | bytes + 1, words, p =>
    if words.all List.isEmpty then p
    else
      -- Words that end before any goes on count once.
      let further := words.dropWhile List.isEmpty
      let cuts := cutAtEnds further
      let ended := cuts.length - 1 + if further.length < words.length then 1 else 0
      (cuts.filter (· ≠ [])).foldl (fun p between =>
        let tails := byFirstByte between
        let p := tails.foldl (fun p words => addTree bytes words p) p
        p.add 1 1 (if tails.length = 1 then 0 else tails.length)) (p.add 1 ended)

/-- The program with what reads one of some words. -/
def addWords (p : Program) (words : List (List UInt8)) : Program :=
  addTree (words.foldl (fun n word => max n word.length) 0) words (p.add 1)

end Program

end RelationGateway
