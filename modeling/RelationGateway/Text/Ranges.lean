/-!
# Classes of characters given by ranges of code points

The tables of Unicode properties are lists of closed ranges; a character belongs to the class
when one of the ranges holds its code point. A class has many lists; its canonical one is in
order and has a gap after every range.

* `inRanges` — a class holds a character;
* `canonical`, `complement` — the canonical lists of a class and of all other code points.
-/

namespace RelationGateway.Text

/-- A closed range of code points, the least and the greatest. -/
abbrev Range := Nat × Nat

/-- One of the ranges holds the code point of the character. -/
def inRanges (ranges : List Range) (c : Char) : Bool :=
  ranges.any fun range => range.1 ≤ c.toNat && c.toNat ≤ range.2

/-- The canonical list of the range from `low` to `high` and of ranges that begin no earlier and
are given by their beginnings. -/
def joinFrom (low high : Nat) : List Range → List Range
  | [] => [(low, high)]
  | (first, last) :: rest =>
    if first ≤ high + 1 then joinFrom low (max high last) rest
    else (low, high) :: joinFrom first last rest

/-- The canonical list of a class. -/
def canonical (ranges : List Range) : List Range :=
  match ranges.mergeSort fun a b => a.1 ≤ b.1 with
  | [] => []
  | (low, high) :: rest => joinFrom low high rest

/-- The greatest code point. -/
def lastCodePoint : Nat := 0x10FFFF

/-- The gaps before, between and after the ranges of a canonical list, from `least` on. -/
def gapsFrom (least : Nat) : List Range → List Range
  | [] => if least ≤ lastCodePoint then [(least, lastCodePoint)] else []
  | (low, high) :: rest =>
    if least < low then (least, low - 1) :: gapsFrom (high + 1) rest else gapsFrom (high + 1) rest

/-- The canonical list of the code points outside a class. -/
def complement (ranges : List Range) : List Range := gapsFrom 0 (canonical ranges)

end RelationGateway.Text
