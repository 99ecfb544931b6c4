import RelationGateway.Failure
import RelationGateway.Http.Header
import RelationGateway.Http.Status
import RelationGateway.Json.Writer
import RelationGateway.NameTable
import RelationGateway.Text.Escaped

/-!
# Drafts of responses

A handler writes fragments of a body and headers into a draft. `Draft.finish` makes a response
of it: a status line, one line for each header, an empty line and the body. Headers that could
forge other lines are refused.
-/

namespace RelationGateway

/-- A response that is being written. -/
structure Draft where
  /-- The fragments of the body, in order. -/
  fragments : List String := []
  /-- The headers. -/
  headers : NameTable .ignoringCase := .empty
  /-- What the audit entry should keep for debugging. -/
  debug : Option Json := none

namespace Draft

/-- The draft with a fragment added to its body. -/
def append (d : Draft) (fragment : String) : Draft :=
  { d with fragments := d.fragments ++ [fragment] }

/-- The draft with a JSON value added to its body. -/
def appendJson (d : Draft) (value : Json) : Draft := d.append value.write

/-- The draft with a header set, whatever it was before. -/
def setHeader (d : Draft) (name value : String) : Draft :=
  { d with headers := d.headers.insert name value }

/-- The draft with a header set unless it is set already. -/
def defaultHeader (d : Draft) (name value : String) : Draft :=
  { d with headers := d.headers.insertIfAbsent name value }

/-- The draft with a value kept for debugging. -/
def setDebug (d : Draft) (value : Json) : Draft := { d with debug := some value }

/-- Nothing was added to the body. -/
def isEmpty (d : Draft) : Bool := d.fragments.isEmpty

/-- The fragments of the body joined. -/
def body (d : Draft) : String := String.join d.fragments

/-- A header as a line. -/
def headerLine (header : String × String) : String := header.1 ++ ": " ++ header.2 ++ "\r\n"

/-- A response: status line, headers, an empty line and the body. -/
def response (status : UInt16) (headers : NameTable .ignoringCase) (body : String) : String :=
  Http.statusLine status ++ "\r\n" ++ String.join (headers.toList.map headerLine) ++ "\r\n" ++
    body

/-- Why a header cannot be sent, if it cannot: the status is not the handler's to set, and a
header that is no header could forge other lines. -/
def refusal? (header : String × String) : Option Failure :=
  if Text.sameIgnoringCase header.1 "Status" then
    some (.invalidHeader "handlers must not set the Status header")
  else if Http.isHeaderName header.1 && Http.isHeaderValue header.2 then none
  else some (.invalidHeader ("rejected header '" ++ Text.escaped header.1 ++ "'"))

/-- The headers that are sent: those of the draft, a content type, and the end of the
connection. -/
def sentHeaders (d : Draft) : NameTable .ignoringCase :=
  (d.headers.insertIfAbsent "Content-Type" "text/plain").insert "Connection" "close"

/-- The body that is sent; without any fragment it is the status code. -/
def sentBody (d : Draft) (status : UInt16) : String :=
  if d.isEmpty then Http.statusText status else d.body

/-- The response that the draft makes with a status. -/
def finish (d : Draft) (status : UInt16) : Except Failure String :=
  match d.headers.toList.findSome? refusal? with
  | some failure => .error failure
  | none => .ok (response status d.sentHeaders (d.sentBody status))

end Draft

end RelationGateway
