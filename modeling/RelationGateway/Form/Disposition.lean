import RelationGateway.Delimited
import RelationGateway.Text.Case
import RelationGateway.Text.Trim

/-!
# The disposition of a part

A disposition is a type and then parameters between semicolons, such as
`form-data; name="f"; filename="a;b.txt"`. A semicolon inside quotes belongs to its parameter.
-/

namespace RelationGateway.Form

/-- A disposition read as far as some character. -/
structure DispositionScan where
  /-- The closed pieces, the last one first. -/
  closed : List String := []
  /-- The open piece in reverse. -/
  piece : List Char := []
  /-- The characters stand inside quotes. -/
  quoted : Bool := false

/-- The piece read last as a text. -/
def DispositionScan.pieceText (scan : DispositionScan) : String :=
  String.ofList scan.piece.reverse

/-- Reads one more character. -/
def DispositionScan.feed (scan : DispositionScan) (c : Char) : DispositionScan :=
  if c == '"' then { scan with piece := c :: scan.piece, quoted := !scan.quoted }
  else if c == ';' && !scan.quoted then { scan with closed := scan.pieceText :: scan.closed, piece := [] }
  else { scan with piece := c :: scan.piece }

/-- The pieces of a disposition between the semicolons outside quotes. -/
def dispositionPieces (disposition : String) : List String :=
  let scan := disposition.toList.foldl DispositionScan.feed {}
  (scan.pieceText :: scan.closed).reverse

/-- The value of a piece, if it is a parameter with the given name; a value in quotes is taken
without them. -/
def pieceValue? (key piece : String) : Option String := do
  let (name, value) ← Text.cut? "=" (Text.trim piece)
  if Text.sameIgnoringCase (Text.trim name) key then
    some (Text.unenclosed "\"" "\"" (Text.trim value))
  else
    none

/-- The value of the first parameter with the given name. -/
def parameter? (disposition key : String) : Option String :=
  (dispositionPieces disposition).findSome? (pieceValue? key)

end RelationGateway.Form
