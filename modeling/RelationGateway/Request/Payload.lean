import RelationGateway.Failure
import RelationGateway.Gzip.Expansion
import RelationGateway.Request.Basic
import RelationGateway.Settings
import RelationGateway.Url.Form

/-!
# What the body of a request holds

The body of a sent form adds query variables, fields and files to the request. It is expanded
first if it is compressed. A body over the limit is refused, before and after expanding.
-/

namespace RelationGateway.Request

/-- A body over the limit as it was sent. -/
def bodyTooLarge (size limit : Nat) : Failure :=
  .payloadTooLarge ("Request body size " ++ toString size ++
    " bytes exceeds maximum allowed size " ++ toString limit ++ " bytes")

/-- A body over the limit when expanded. -/
def expandedTooLarge (limit : Nat) : Failure :=
  .payloadTooLarge ("Decompressed body exceeds maximum allowed size " ++ toString limit ++
    " bytes")

/-- A body that cannot be expanded. -/
def notExpandable (message : String) : Failure :=
  .invalidRequest ("Failed to decompress gzip body: " ++ message)

/-- The bytes that a compressed body expands to. One byte beyond the limit is asked for, in
words of 64 bits, to tell that the limit is passed. -/
def expandBody (expander : Gzip.Expander) (body : List UInt8) (maxBodySize : UInt64) :
    Except Failure (List UInt8) :=
  match expander.read (maxBodySize + 1).toNat body with
  | .error message => .error (notExpandable message)
  | .ok expanded =>
    if maxBodySize.toNat < expanded.length then .error (expandedTooLarge maxBodySize.toNat)
    else .ok expanded

/-- The body is compressed. -/
def isCompressed (r : Request) : Bool :=
  Text.sameIgnoringCase ((r.headers.get? "Content-Encoding").getD "") "gzip"

/-- The media type of the body in small letters, empty if none is given. -/
def mediaType (r : Request) : String :=
  Text.lower
    ((r.environment.get? "CONTENT_TYPE" <|> r.headers.get? "Content-Type").getD "")

/-- The text begins with `start`. -/
def startsWith (start s : String) : Bool := start.toList.isPrefixOf s.toList

/-- The request with what its expanded body holds. -/
def withBody (r : Request) (body : List UInt8) : Request :=
  if startsWith "multipart/form-data" r.mediaType then
    let form := Form.FormData.read body
    { r with uploads := form.uploads, fields := form.fields }
  else if startsWith "application/x-www-form-urlencoded" r.mediaType then
    { r with query := Url.merge r.query (Text.trim (Utf8.decode body)) }
  else
    r

/-- The request with what its body holds. Only the body of a sent form is looked into. -/
def read (r : Request) (body : List UInt8) (settings : Settings)
    (expander : Gzip.Expander := .ofMembers) : Except Failure Request :=
  if settings.maxBodySize.toNat < body.length then
    .error (bodyTooLarge body.length settings.maxBodySize.toNat)
  else if r.method ≠ .post ∨ body.isEmpty then .ok r
  else if r.isCompressed then (expandBody expander body settings.maxBodySize).map r.withBody
  else .ok (r.withBody body)

end RelationGateway.Request
