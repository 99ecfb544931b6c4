import RelationGateway.Delimited
import RelationGateway.NameTable
import RelationGateway.Url.Percent

/-!
# Query strings and forms

A query string holds pieces between ampersands, each a name and, after its first `=`, a value.
The first value of a name is the one that counts.
-/

namespace RelationGateway.Url

/-- The nonempty pieces of a query string. -/
def pieces (query : String) : List String :=
  (Text.segments "&" query).filter fun piece => !piece.isEmpty

/-- The written name and the written value of a piece; without `=` the value is empty. -/
def nameAndValue (piece : String) : String × String :=
  (Text.cut? "=" piece).getD (piece, "")

/-- The name and the value that a piece stands for. -/
def pair (piece : String) : String × String :=
  let (name, value) := nameAndValue piece
  (decode name, decode value)

/-- The names and values that a query string stands for, in order and with repetitions. -/
def readPairs (query : String) : List (String × String) := (pieces query).map pair

/-- Adds the variables of a query string to a table, keeping the values it has. -/
def merge (table : NameTable .exact) (query : String) : NameTable .exact :=
  (readPairs query).foldl (fun t v => t.insertIfAbsent v.1 v.2) table

/-- The variables of a query string. -/
def readForm (query : String) : NameTable .exact := merge .empty query

end RelationGateway.Url
