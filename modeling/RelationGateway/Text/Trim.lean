import RelationGateway.Text.Ranges

/-!
# Blank characters and trimming

A character is blank when it has the Unicode property White_Space. Trimming removes the
longest run of characters of a class from one or both ends of a text.
-/

namespace RelationGateway.Text

/-- The code points with the Unicode property White_Space. -/
def blankRanges : List Range :=
  [(0x9, 0xD), (0x20, 0x20), (0x85, 0x85), (0xA0, 0xA0), (0x1680, 0x1680), (0x2000, 0x200A),
   (0x2028, 0x2029), (0x202F, 0x202F), (0x205F, 0x205F), (0x3000, 0x3000)]

/-- The character is blank. -/
def isBlank (c : Char) : Bool := inRanges blankRanges c

/-- The text without the longest run of characters satisfying `p` at its start. -/
def trimStartBy (p : Char → Bool) (s : String) : String :=
  String.ofList (s.toList.dropWhile p)

/-- The text without the longest run of characters satisfying `p` at its end. -/
def trimEndBy (p : Char → Bool) (s : String) : String :=
  String.ofList (s.toList.reverse.dropWhile p).reverse

/-- The text without the longest runs of characters satisfying `p` at both ends. -/
def trimBy (p : Char → Bool) (s : String) : String :=
  trimEndBy p (trimStartBy p s)

/-- The text without blank characters at both ends. -/
def trim (s : String) : String := trimBy isBlank s

/-- The text without blank characters at its end. -/
def trimEnd (s : String) : String := trimEndBy isBlank s

end RelationGateway.Text
