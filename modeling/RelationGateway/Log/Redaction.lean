import RelationGateway.Text.Case
import RelationGateway.Url.Form

/-!
# Keeping secrets out of the log

A value whose name suggests a secret is masked before it is logged. Query strings are masked
piece by piece, and long values are cut.
-/

namespace RelationGateway.Log

/-- What stands for a masked value. -/
def mask : String := "***redacted***"

/-- Parts of names that suggest a secret. -/
def sensitiveParts : List String :=
  ["authorization", "cookie", "token", "secret", "password", "pass", "jwt", "auth", "session",
   "csrf", "signature", "private", "key", "credential"]

/-- The name, in small letters, suggests a secret. -/
def isSensitive (name : String) : Bool := sensitiveParts.any fun part => Text.holds part name

/-- A piece of a query string as it is logged. -/
def maskPiece (piece : String) : String :=
  let (name, value) := Url.nameAndValue piece
  name ++ "=" ++ (if isSensitive (Text.lower name) then mask else value)

/-- A query string as it is logged. -/
def maskQuery (query : String) : String :=
  String.intercalate "&" ((Url.pieces query).map maskPiece)

/-- The greatest number of characters of a logged value. -/
def valueLimit : Nat := 200

/-- A long value cut, with a note that it was. -/
def shorten (value : String) : String :=
  if valueLimit < value.length then
    String.ofList (value.toList.take valueLimit) ++ "...[truncated]"
  else
    value

/-- A value as it is logged under its name. -/
def maskValue (name value : String) : String :=
  if Text.lower name == "query_string" then maskQuery value
  else if isSensitive (Text.lower name) then mask
  else shorten value

end RelationGateway.Log
