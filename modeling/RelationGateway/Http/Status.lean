import RelationGateway.Text.Trim

/-!
# Status codes

The status codes with a reason phrase and the first line of a response.
-/

namespace RelationGateway.Http

/-- The reason phrases, each with its status code. -/
def reasons : List (UInt16 × String) :=
  [(200, "OK"), (301, "Moved Permanently"), (302, "Moved Temporarily"), (400, "Bad Request"),
   (403, "Permission Denied"), (404, "Not Found"), (409, "Conflict"), (413, "Payload Too Large"),
   (500, "Internal Server Error")]

/-- The reason phrase of a status code, if the code is known. -/
def reason? (status : UInt16) : Option String :=
  (reasons.find? (·.1 == status)).map (·.2)

/-- The reason phrase of a status code, empty for an unknown code. -/
def reason (status : UInt16) : String := (reason? status).getD ""

/-- The decimal text of a status code. -/
def statusText (status : UInt16) : String := toString status.toNat

/-- The code and, if it is known, its reason phrase. -/
def statusTitle (status : UInt16) : String :=
  match reason? status with
  | some phrase => statusText status ++ " " ++ phrase
  | none => statusText status

/-- The first line of a response. -/
def statusLine (status : UInt16) : String := "Status: " ++ statusTitle status

end RelationGateway.Http
