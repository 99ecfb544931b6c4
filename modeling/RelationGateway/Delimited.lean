/-!
# Delimited lists

A list is cut at the leftmost occurrences of a delimiter, which never overlap. The functions
work on lists of any type, so that bytes and texts share them; the text versions follow.

* `cut?` — what stands before and after the first occurrence;
* `segments` — the pieces between all occurrences, a last empty one included;
* `spans` — where those pieces lie.

An empty delimiter cuts nothing.
-/

namespace RelationGateway.Delimited

variable {α : Type} [BEq α]

/-- Looks for the first occurrence of `delimiter`, keeping in reverse what was passed over. -/
def cutAfter (delimiter before : List α) : List α → Option (List α × List α)
  | [] => none
  | x :: rest =>
    if delimiter.isPrefixOf (x :: rest) then
      some (before.reverse, (x :: rest).drop delimiter.length)
    else
      cutAfter delimiter (x :: before) rest

/-- What stands before and what stands after the first occurrence of the delimiter. -/
def cut? (delimiter list : List α) : Option (List α × List α) :=
  if delimiter.isEmpty then none else cutAfter delimiter [] list

/-- Collects the pieces of a list. `skip` elements still belong to a delimiter, `piece` is the
open piece in reverse, and `done` holds the closed pieces in reverse. -/
def segmentsAfter (delimiter : List α) (skip : Nat) (piece : List α) (done : List (List α)) :
    List α → List (List α)
  | [] => (piece.reverse :: done).reverse
  | x :: rest =>
    match skip with
    | n + 1 => segmentsAfter delimiter n piece done rest
    | 0 =>
      if delimiter.isPrefixOf (x :: rest) then
        segmentsAfter delimiter (delimiter.length - 1) [] (piece.reverse :: done) rest
      else
        segmentsAfter delimiter 0 (x :: piece) done rest

/-- The pieces between the occurrences of the delimiter, in order; at least one. -/
def segments (delimiter list : List α) : List (List α) :=
  if delimiter.isEmpty then [list] else segmentsAfter delimiter 0 [] [] list

/-- The piece with the given number, the first being number one. -/
def segment? (delimiter list : List α) : Nat → Option (List α)
  | 0 => none
  | n + 1 => (segments delimiter list)[n]?

/-- Start and end of consecutive pieces that are `gap` apart, the first one at `start`. -/
def placed (gap start : Nat) : List (List α) → List (Nat × Nat)
  | [] => []
  | piece :: rest =>
    (start, start + piece.length) :: placed gap (start + piece.length + gap) rest

/-- Start and end of each piece of the list. -/
def spans (delimiter list : List α) : List (Nat × Nat) :=
  placed delimiter.length 0 (segments delimiter list)

/-- With an empty delimiter the list is one piece. -/
@[simp]
theorem segments_nil (list : List α) : segments [] list = [list] := rfl

/-- With an empty delimiter nothing is cut. -/
@[simp]
theorem cut?_nil (list : List α) : cut? [] list = none := rfl

example : segments [0, 0] [0, 0, 0, 1] = [[], [0, 1]] := by decide
example : spans [7] [1, 7, 7, 2] = [(0, 1), (2, 2), (3, 4)] := by decide
example : cut? [7, 7] [1, 7, 7, 7] = some ([1], [7]) := by decide

end RelationGateway.Delimited

namespace RelationGateway.Text

/-- What stands before and what stands after the first occurrence of `delimiter` in a text. -/
def cut? (delimiter s : String) : Option (String × String) :=
  (Delimited.cut? delimiter.toList s.toList).map fun (before, after) =>
    (String.ofList before, String.ofList after)

/-- The pieces of a text between the occurrences of `delimiter`. -/
def segments (delimiter s : String) : List String :=
  (Delimited.segments delimiter.toList s.toList).map String.ofList

/-- The text without `start`, if it begins so. -/
def dropStart? (start s : String) : Option String :=
  if start.toList.isPrefixOf s.toList then
    some (String.ofList (s.toList.drop start.length))
  else
    none

/-- The text without `tail`, if it ends so. -/
def dropTail? (tail s : String) : Option String :=
  if tail.toList.isSuffixOf s.toList then
    some (String.ofList (s.toList.take (s.length - tail.length)))
  else
    none

/-- The text between an opening and a closing text, or the whole text if it is not enclosed. -/
def unenclosed (opening closing s : String) : String :=
  ((dropStart? opening s).bind (dropTail? closing)).getD s

/-- The nonempty text `part` stands somewhere in the text. -/
def holds (part s : String) : Bool :=
  (Delimited.cut? part.toList s.toList).isSome

/-- The text with every character `old` replaced by `new`. -/
def substitute (old new : Char) (s : String) : String :=
  s.map fun c => if c == old then new else c

end RelationGateway.Text
