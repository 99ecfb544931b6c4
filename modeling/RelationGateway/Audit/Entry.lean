import RelationGateway.Base64
import RelationGateway.Failure
import RelationGateway.Http.Status
import RelationGateway.Json.Writer
import RelationGateway.Request.Basic
import RelationGateway.Text.Utf8

/-!
# Audit entries

One entry is kept of every request: who asked for what, what was received, what was answered,
and why it failed if it did.
-/

namespace RelationGateway.Audit

/-- What is kept of one request. -/
structure Entry where
  /-- The identifier of the entry. -/
  id : String := ""
  /-- When the request arrived. -/
  timestamp : String := ""
  /-- How long it took, in microseconds. -/
  elapsed : Nat := 0
  /-- The address that sent the request. -/
  ip : Option String := none
  /-- The method. -/
  method : String := ""
  /-- The URL. -/
  url : String := ""
  /-- The page that referred to the URL. -/
  referrer : Option String := none
  /-- The user who sent the request. -/
  username : Option String := none
  /-- The status of the answer. -/
  status : UInt16 := 0
  /-- The number of bytes of the answer. -/
  size : Nat := 0
  /-- The program that sent the request. -/
  agent : Option String := none
  /-- The block of the environment as it was received. -/
  environment : String
  /-- The body as it was received. -/
  input : List UInt8
  /-- The answer. -/
  output : String := ""
  /-- Why the request failed, if it did. -/
  error : Option Report := none
  /-- What the handler kept for debugging. -/
  debug : Option Json := none

namespace Entry

/-- The entry of a request that has been received and not yet looked into. -/
def begin (environment : String) (input : List UInt8) : Entry := { environment, input }

/-- The entry with who asks for what. -/
def identified (e : Entry) (r : Request) : Entry :=
  { e with
    ip := r.ip
    method := r.method.text
    url := r.url
    referrer := r.referrer
    username := r.username
    agent := r.agent }

/-- The entry with the answer and the time it took, in microseconds. -/
def finished (e : Entry) (elapsed : Nat) (output : String) : Entry :=
  { e with elapsed, size := (Utf8.encode output).length, output }

/-- The time it took, in thousandths of a second. -/
def milliseconds (e : Entry) : Decimal := Decimal.ofFloat (Float.ofNat e.elapsed / 1000.0)

end Entry

/-- A report as JSON. -/
def reportJson (report : Report) : Json :=
  .object
    [("code", .text report.code), ("message", .text report.message),
     ("detail", .optional report.detail), ("context", .text report.context)]

/-- An entry as JSON, its input in base 64. -/
def Entry.json (e : Entry) : Json :=
  .object
    [("id", .text e.id), ("timestamp", .text e.timestamp), ("duration_ms", .real e.milliseconds),
     ("ip", .optional e.ip), ("method", .text e.method), ("url", .text e.url),
     ("referrer", .optional e.referrer), ("username", .optional e.username),
     ("status", .int e.status.toNat), ("size", .int e.size), ("agent", .optional e.agent),
     ("environment", .text e.environment), ("input", .text (Base64.write e.input)),
     ("output", .text e.output), ("error", (e.error.map reportJson).getD .null),
     ("debug", e.debug.getD .null)]

/-- The line of a file of entries. -/
def Entry.line (e : Entry) : String := e.json.write ++ "\n"

/-- A place where entries are kept. -/
structure Sink (m : Type → Type) where
  /-- Keeps an entry, or fails to. -/
  keep : Entry → m (Except Failure Unit)

end RelationGateway.Audit
