import RelationGateway.Failure
import RelationGateway.Log.Redaction
import RelationGateway.Request.Basic

/-!
# Entries of the failure log

A failure is logged with its report and a summary of the request, each in lines, so that what
a client sends cannot forge a line. An entry is framed by rules and stamped.
-/

namespace RelationGateway.Log

/-- The variables of the environment that a summary shows. -/
def shownVariables : List String :=
  ["CONTENT_TYPE", "CONTENT_LENGTH", "SERVER_PROTOCOL", "SERVER_NAME", "SERVER_PORT",
   "REMOTE_ADDR"]

/-- A named value as a line. -/
def valueLine (indent name value : String) : String := indent ++ name ++ "=" ++ value

/-- The lines of the shown variables that the environment has. -/
def variableLines (r : Request) : List String :=
  shownVariables.filterMap fun name =>
    (r.environment.get? name).map fun value => valueLine "  " name (maskValue name value)

/-- The lines of the headers. -/
def headerLines (r : Request) : List String :=
  if r.headers.isEmpty then ["    (none)"]
  else r.headers.toList.map fun (name, value) => valueLine "    " name (maskValue name value)

/-- The summary of a request, as lines. -/
def summaryLines (r : Request) : List String :=
  ["Request context:",
   valueLine "  " "REQUEST_METHOD" r.method.text,
   valueLine "  " "PATH" r.path,
   valueLine "  " "QUERY_STRING" (maskQuery r.queryString)] ++
    variableLines r ++ "  HTTP headers:" :: headerLines r

/-- The summary of a request. -/
def summary (r : Request) : String := String.intercalate "\n" (summaryLines r)

/-- Where a failure happened, with the query string of the URL masked. -/
def maskContext (context : String) : String :=
  match Text.cut? "?" context with
  | some (before, query) => before ++ "?" ++ maskQuery query
  | none => context

/-- What is logged of a failure and the request that failed. -/
def describe (report : Report) (request : Option Request) : String :=
  String.intercalate "\n"
    (["code: " ++ report.code, "message: " ++ report.message] ++
      (report.detail.map fun detail => "detail: " ++ detail).toList ++
      ["context: " ++ maskContext report.context] ++
      (request.map summary).toList)

/-- When and by whom an entry is written. -/
structure Stamp where
  /-- The time at the meridian. -/
  utc : String
  /-- The time of the place. -/
  localTime : String
  /-- The number of the process. -/
  process : String

/-- The rule around an entry. -/
def rule : String := String.ofList (List.replicate 80 '=')

/-- The rule below the stamp. -/
def thinRule : String := String.ofList (List.replicate 80 '-')

/-- An entry of the log. -/
def entry (stamp : Stamp) (text : String) : String :=
  rule ++ "\nPGBRIDGE CGI ERROR\nTimestamp (UTC): " ++ stamp.utc ++ "\nTimestamp (Local): " ++
    stamp.localTime ++ "\nProcess ID: " ++ stamp.process ++ "\n" ++ thinRule ++ "\n" ++ text ++
    "\n" ++ rule ++ "\n\n"

end RelationGateway.Log
