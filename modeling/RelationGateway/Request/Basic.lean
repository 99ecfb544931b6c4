import RelationGateway.Form.Parts
import RelationGateway.Http.Method
import RelationGateway.Url.Path

/-!
# Requests

A request as handlers see it: method, URL, headers, variables, and what its body held.
-/

namespace RelationGateway

/-- A decoded request. -/
structure Request where
  /-- The method. -/
  method : Http.Method
  /-- The URL as it was sent. -/
  url : String
  /-- The URL before its first question mark. -/
  path : String
  /-- The segments of the path. -/
  segments : List String
  /-- The URL after its first question mark. -/
  queryString : String
  /-- The page that referred to the URL. -/
  referrer : Option String := none
  /-- The program that sent the request. -/
  agent : Option String := none
  /-- The user who sent the request. -/
  username : Option String := none
  /-- The address that sent the request. -/
  ip : Option String := none
  /-- The variables of the environment. -/
  environment : NameTable .exact := .empty
  /-- The headers. -/
  headers : NameTable .ignoringCase := .empty
  /-- The query variables, those of the URL before those of the body. -/
  query : NameTable .exact := .empty
  /-- The fields of a form in parts. -/
  fields : NameTable .exact := .empty
  /-- The files of a form in parts. -/
  uploads : List Form.Upload := []

namespace Request

/-- The request with a method and a URL, and nothing else known of it. -/
def ofUrl (method : Http.Method) (url : String) : Request :=
  let (path, queryString) := Url.parts url
  { method, url, path, segments := Url.pathSegments path, queryString }

/-- The method and the URL, as messages name the request. -/
def line (r : Request) : String := r.method.text ++ " " ++ r.url

/-- The first file sent under a field name. -/
def upload? (r : Request) (name : String) : Option Form.Upload :=
  r.uploads.find? (·.name == name)

end Request

end RelationGateway
