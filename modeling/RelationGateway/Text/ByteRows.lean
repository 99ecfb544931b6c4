import RelationGateway.Text.Ranges

/-!
# Encodings of ranges of code points

The UTF-8 encodings of the code points of a range are the texts of a few rows of byte ranges,
one byte from each range of the row. Each row is as wide as it can be: a range of code points is
cut only where the number of bytes changes, around the surrogates, which have no encoding, and
where a byte that is not the last takes another value while those after it are not at their
least or greatest.

* `byteRows` — the rows of a range of code points, in order.
-/

namespace RelationGateway.Text

/-- A closed range of bytes, the least and the greatest. -/
abbrev ByteRange := Nat × Nat

/-- The rows for the numbers from `low` to `high` written with a first byte, to which `mark` is
added, and `more` bytes of six bits after it. -/
def rowsOfLength (mark : Nat) : (more low high : Nat) → List (List ByteRange)
  | 0, low, high => [[(mark + low, mark + high)]]
  | more + 1, low, high =>
    let unit := 64 ^ (more + 1)
    let first := low / unit
    let last := high / unit
    -- The rows in which the first byte has one value.
    let under (byte low high : Nat) : List (List ByteRange) :=
      (rowsOfLength 0x80 more low high).map ((mark + byte, mark + byte) :: ·)
    if first = last then under first (low % unit) (high % unit)
    else
      let (before, start) :=
        if low % unit = 0 then ([], first)
        else (under first (low % unit) (unit - 1), first + 1)
      let (stop, after) :=
        if high % unit = unit - 1 then (last + 1, [])
        else (last, under last 0 (high % unit))
      let whole :=
        if start < stop then
          [(mark + start, mark + stop - 1) :: List.replicate (more + 1) (0x80, 0xBF)]
        else []
      before ++ whole ++ after

/-- The code points that have encodings of one length, with the mark of their first byte and
the number of further bytes. -/
def encodingLengths : List (Range × Nat × Nat) :=
  [((0, 0x7F), 0, 0), ((0x80, 0x7FF), 0xC0, 1), ((0x800, 0xD7FF), 0xE0, 2),
   ((0xE000, 0xFFFF), 0xE0, 2), ((0x10000, 0x10FFFF), 0xF0, 3)]

/-- The rows of a range of code points. -/
def byteRows (range : Range) : List (List ByteRange) :=
  encodingLengths.flatMap fun ((low, high), mark, more) =>
    if max low range.1 ≤ min high range.2 then
      rowsOfLength mark more (max low range.1) (min high range.2)
    else []

/-- The rows of all code points that two bytes encode and of some that three do. -/
example : byteRows (0x80, 0x1005) =
    [[(0xC2, 0xDF), (0x80, 0xBF)], [(0xE0, 0xE0), (0xA0, 0xBF), (0x80, 0xBF)],
     [(0xE1, 0xE1), (0x80, 0x80), (0x80, 0x85)]] := by
  decide

end RelationGateway.Text
