import RelationGateway.Reply.Draft

/-!
# Error pages

A failed request is answered with a small page that holds the status and the message of the
failure and nothing else.
-/

namespace RelationGateway.Page

/-- A character as it is written in a page. -/
def escapeChar (c : Char) : List Char :=
  match c with
  | '&' => "&amp;".toList
  | '<' => "&lt;".toList
  | '>' => "&gt;".toList
  | '"' => "&quot;".toList
  | '\'' => "&#39;".toList
  | _ => [c]

/-- A text as it is written in a page. -/
def escape (s : String) : String := String.ofList (s.toList.flatMap escapeChar)

/-- The page with a title and a message. -/
def page (title message : String) : String :=
  "<!DOCTYPE html>\n<html><head><title>" ++ escape title ++ "</title></head><body><h1>" ++
    escape title ++ "</h1><p>" ++ escape message ++ "</p></body></html>\n"

/-- The headers of an error page. -/
def headers : NameTable .ignoringCase :=
  .ofList [("Content-Type", "text/html"), ("Connection", "close")]

/-- The response to a failed request. -/
def response (status : UInt16) (message : String) : String :=
  Draft.response status headers (page (Http.statusTitle status) message)

end RelationGateway.Page
