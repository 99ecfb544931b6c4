import RelationGateway.Cgi.Environment
import RelationGateway.Request.Basic
import RelationGateway.Url.Form

/-!
# Who asks for what

The environment alone tells method, URL, query variables, headers, and who asks. Reading it
never fails, so that a request whose body cannot be read is still known.
-/

namespace RelationGateway.Request

/-- The method that the environment names; without one the request asks for a resource. -/
def environmentMethod (environment : NameTable .exact) : Http.Method :=
  match (environment.get? "REQUEST_METHOD").map Text.trim with
  | some text => if text.isEmpty then .get else .ofText text
  | none => .get

/-- The URL that the environment names; without one the root is meant. -/
def environmentUrl (environment : NameTable .exact) : String :=
  ((environment.get? "REQUEST_URI").filter fun url => !url.isEmpty).getD "/"

/-- The address that a request was forwarded for first. -/
def forwardedFor (headers : NameTable .ignoringCase) : Option String :=
  ((headers.get? "X-Forwarded-For").bind fun value =>
    ((Text.segments "," value).head?).map Text.trim).filter fun ip => !ip.isEmpty

/-- The request that a block of the environment tells of, its body not yet read. -/
def identify (block : String) : Request :=
  let vars := Cgi.read block
  let environment : NameTable .exact := .ofList vars
  let headers := Cgi.headers vars
  let request := ofUrl (environmentMethod environment) (environmentUrl environment)
  { request with
    query := Url.readForm request.queryString
    referrer := headers.get? "Referer"
    agent := headers.get? "User-Agent"
    username := headers.get? "X-Remote-User" <|> environment.get? "REMOTE_USER"
    ip := forwardedFor headers <|> environment.get? "REMOTE_ADDR"
    headers
    environment }

end RelationGateway.Request
