/-!
# Letter case

Names are compared without regard to the case of ASCII letters. Method names are compared by
their full upper case, in which some characters beyond ASCII become ASCII letters.
-/

namespace RelationGateway.Text

/-- The text with ASCII capitals made small and all else kept. -/
def lower (s : String) : String := s.map Char.toLower

/-- The two texts are equal but for the case of ASCII letters. -/
def sameIgnoringCase (s t : String) : Bool := lower s == lower t

/-- The full upper case of a character as far as it consists of ASCII letters; a character
whose upper case holds anything else stands for itself. -/
def upperLetters (c : Char) : List Char :=
  match c.toNat with
  | 0xDF => ['S', 'S']
  | 0x131 => ['I']
  | 0x17F => ['S']
  | 0xFB00 => ['F', 'F']
  | 0xFB01 => ['F', 'I']
  | 0xFB02 => ['F', 'L']
  | 0xFB03 => ['F', 'F', 'I']
  | 0xFB04 => ['F', 'F', 'L']
  | 0xFB05 => ['S', 'T']
  | 0xFB06 => ['S', 'T']
  | _ => [c.toUpper]

/-- The text in upper case, exact wherever the upper case consists of ASCII letters. -/
def upper (s : String) : String :=
  String.ofList (s.toList.flatMap upperLetters)

end RelationGateway.Text
