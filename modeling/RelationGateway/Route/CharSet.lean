import RelationGateway.Text.Class.Digit
import RelationGateway.Text.Class.Word
import RelationGateway.Text.Trim

/-!
# Sets of characters

What a class of a regular expression holds: characters, named sets, and other classes, one
beside the other or combined.

* `CharSet.holds` — the set holds a character;
* `CharSet.ranges` — its code points, as a canonical list of ranges;
* `CharSet.nesting` — how deeply its parts stand inside one another.
-/

namespace RelationGateway

/-- A set of characters with a name: three of every script, and those of ASCII. -/
inductive NamedSet where
  /-- Decimal digits of every script. -/
  | digit
  /-- Word characters of every script. -/
  | word
  /-- Blank characters. -/
  | blank
  /-- Letters and digits of ASCII. -/
  | asciiAlnum
  /-- Letters of ASCII. -/
  | asciiAlpha
  /-- All of ASCII. -/
  | ascii
  /-- The space and the tabulator. -/
  | asciiBlank
  /-- Control characters of ASCII. -/
  | asciiControl
  /-- Digits of ASCII. -/
  | asciiDigit
  /-- Visible characters of ASCII. -/
  | asciiGraph
  /-- Small letters of ASCII. -/
  | asciiLower
  /-- Visible characters of ASCII and the space. -/
  | asciiPrint
  /-- Visible characters of ASCII that are neither letters nor digits. -/
  | asciiPunct
  /-- Blank characters of ASCII. -/
  | asciiSpace
  /-- Capital letters of ASCII. -/
  | asciiUpper
  /-- Letters and digits of ASCII and the underscore. -/
  | asciiWord
  /-- Hexadecimal digits. -/
  | asciiHex
deriving DecidableEq, Repr

/-- The code points of a named set. -/
def NamedSet.ranges : NamedSet → List Text.Range
  | .digit => Text.decimalDigitRanges
  | .word => Text.wordRanges
  | .blank => Text.blankRanges
  | .asciiAlnum => [(0x30, 0x39), (0x41, 0x5A), (0x61, 0x7A)]
  | .asciiAlpha => [(0x41, 0x5A), (0x61, 0x7A)]
  | .ascii => [(0x00, 0x7F)]
  | .asciiBlank => [(0x09, 0x09), (0x20, 0x20)]
  | .asciiControl => [(0x00, 0x1F), (0x7F, 0x7F)]
  | .asciiDigit => [(0x30, 0x39)]
  | .asciiGraph => [(0x21, 0x7E)]
  | .asciiLower => [(0x61, 0x7A)]
  | .asciiPrint => [(0x20, 0x7E)]
  | .asciiPunct => [(0x21, 0x2F), (0x3A, 0x40), (0x5B, 0x60), (0x7B, 0x7E)]
  | .asciiSpace => [(0x09, 0x0D), (0x20, 0x20)]
  | .asciiUpper => [(0x41, 0x5A)]
  | .asciiWord => [(0x30, 0x39), (0x41, 0x5A), (0x5F, 0x5F), (0x61, 0x7A)]
  | .asciiHex => [(0x30, 0x39), (0x41, 0x46), (0x61, 0x66)]

/-- The set of ASCII that a name stands for between colons. -/
def NamedSet.ofName? (name : String) : Option NamedSet :=
  match name with
  | "alnum" => some .asciiAlnum
  | "alpha" => some .asciiAlpha
  | "ascii" => some .ascii
  | "blank" => some .asciiBlank
  | "cntrl" => some .asciiControl
  | "digit" => some .asciiDigit
  | "graph" => some .asciiGraph
  | "lower" => some .asciiLower
  | "print" => some .asciiPrint
  | "punct" => some .asciiPunct
  | "space" => some .asciiSpace
  | "upper" => some .asciiUpper
  | "word" => some .asciiWord
  | "xdigit" => some .asciiHex
  | _ => none

/-- How two sets are combined. -/
inductive SetOperation where
  /-- What both hold. -/
  | both
  /-- What the first holds and the second does not. -/
  | without
  /-- What just one of them holds. -/
  | onlyOne
deriving DecidableEq, Repr

/-- A character is held, given whether either set holds it. -/
def SetOperation.holds : SetOperation → Bool → Bool → Bool
  | .both, first, second => first && second
  | .without, first, second => first && !second
  | .onlyOne, first, second => first != second

/-- A set of characters. -/
inductive CharSet where
  /-- No character. -/
  | empty
  /-- The characters from one to another. -/
  | range (low high : Char)
  /-- A named set, or all other characters. -/
  | named (set : NamedSet) (negated : Bool)
  /-- What one or the other holds. -/
  | union (first second : CharSet)
  /-- Two sets combined. -/
  | combined (operation : SetOperation) (first second : CharSet)
  /-- What a set between brackets holds, or all other characters. -/
  | bracketed (negated : Bool) (set : CharSet)
deriving DecidableEq, Repr

namespace CharSet

/-- The set of one character. -/
def single (c : Char) : CharSet := .range c c

/-- The set holds the character. -/
def holds (c : Char) : CharSet → Bool
  | .empty => false
  | .range low high => low ≤ c && c ≤ high
  | .named set negated => Text.inRanges set.ranges c != negated
  | .union first second => first.holds c || second.holds c
  | .combined operation first second => operation.holds (first.holds c) (second.holds c)
  | .bracketed negated set => set.holds c != negated

/-- The canonical ranges of what two sets hold together. -/
def common (first second : List Text.Range) : List Text.Range :=
  Text.complement (Text.complement first ++ Text.complement second)

/-- The canonical ranges of the code points of a set. -/
def ranges : CharSet → List Text.Range
  | .empty => []
  | .range low high => [(low.toNat, high.toNat)]
  | .named set negated => if negated then Text.complement set.ranges else Text.canonical set.ranges
  | .union first second => Text.canonical (first.ranges ++ second.ranges)
  | .combined .both first second => common first.ranges second.ranges
  | .combined .without first second => common first.ranges (Text.complement second.ranges)
  | .combined .onlyOne first second =>
    let either := Text.canonical (first.ranges ++ second.ranges)
    common either (Text.complement (common first.ranges second.ranges))
  | .bracketed negated set => if negated then Text.complement set.ranges else set.ranges

/-- The number of levels of a set inside a union or elsewhere. Brackets, sets side by side and
sets combined are one level each; the parts of one union share its level. -/
def nestingWithin (inUnion : Bool) : CharSet → Nat
  | .union first second =>
    max (nestingWithin true first) (nestingWithin false second) + (!inUnion).toNat
  | .combined _ first second => max (nestingWithin false first) (nestingWithin false second) + 1
  | .bracketed _ set => nestingWithin false set + 1
  | _ => 0

/-- The number of levels of a set. -/
def nesting (set : CharSet) : Nat := set.nestingWithin false

end CharSet

end RelationGateway
