/-!
# Failures

Everything that can keep a request from its answer, by cause. A failure is the client's, a
missing route, or internal; that class decides the status of the answer. The message may be
shown to the client, the report goes into the audit entry.
-/

namespace RelationGateway

/-- Why a request was not answered as asked. -/
inductive Failure where
  /-- The request cannot be read. -/
  | invalidRequest (message : String)
  /-- The relation is not known. -/
  | unknownRelation (message : String)
  /-- The operation is not offered. -/
  | unsupported (message : String)
  /-- No handler accepts the path and the method. -/
  | routeNotFound (message : String)
  /-- The body is over its limit. -/
  | payloadTooLarge (message : String)
  /-- The database refused, with its error code and a detail if it gave any. -/
  | database (code : Option String) (message : String) (detail : Option String)
  /-- A handler broke off. -/
  | handlerCrashed (message : String)
  /-- A header cannot be sent. -/
  | invalidHeader (message : String)
  /-- A value cannot be written as JSON. -/
  | unwritable (message : String)
  /-- The settings are wrong. -/
  | misconfigured (message : String)
  /-- Something else went wrong inside. -/
  | internal (message : String)
deriving DecidableEq, Repr

/-- Whose fault a failure is. -/
inductive Fault where
  /-- The request is at fault. -/
  | client
  /-- Nothing answers at that place. -/
  | missing
  /-- The gateway or its database is at fault. -/
  | internal
deriving DecidableEq, Repr

/-- What an audit entry keeps of a failure. -/
structure Report where
  /-- The code of the failure. -/
  code : String
  /-- The message that may be shown. -/
  message : String
  /-- What the database added, if anything. -/
  detail : Option String
  /-- Where it happened. -/
  context : String
deriving DecidableEq, Repr

namespace Failure

/-- Whose fault the failure is. Data that the database cannot read, error class 22, is the
client's. -/
def fault : Failure → Fault
  | .invalidRequest _ | .unknownRelation _ | .unsupported _ | .payloadTooLarge _ => .client
  | .routeNotFound _ => .missing
  | .database (some code) _ _ => if "22".toList.isPrefixOf code.toList then .client else .internal
  | _ => .internal

/-- The status of the answer. -/
def status (f : Failure) : UInt16 :=
  match f with
  | .payloadTooLarge _ => 413
  | _ =>
    match f.fault with
    | .client => 400
    | .missing => 404
    | .internal => 500

/-- The code of the failure; a database failure has the code of the database. -/
def code : Failure → String
  | .invalidRequest _ => "invalid_request"
  | .unknownRelation _ => "unknown_relation"
  | .unsupported _ => "unsupported"
  | .routeNotFound _ => "route_not_found"
  | .payloadTooLarge _ => "payload_too_large"
  | .database (some code) _ _ => code
  | .database none _ _ => "database"
  | .handlerCrashed _ => "handler_panic"
  | .invalidHeader _ => "invalid_header"
  | .unwritable _ => "response_serialization"
  | .misconfigured _ => "configuration"
  | .internal _ => "internal"

/-- The message that may be shown to the client. -/
def message : Failure → String
  | .invalidRequest m | .unknownRelation m | .unsupported m | .routeNotFound m
  | .payloadTooLarge m | .database _ m _ | .handlerCrashed m | .invalidHeader m
  | .unwritable m | .misconfigured m | .internal m => m

/-- The kind of the failure in words. -/
def heading : Failure → String
  | .invalidRequest _ => "Invalid request"
  | .unknownRelation _ => "Unknown relation"
  | .unsupported _ => "Unsupported operation"
  | .routeNotFound _ => "Route not found"
  | .payloadTooLarge _ => "Payload too large"
  | .database .. => "Database error"
  | .handlerCrashed _ => "Handler panicked"
  | .invalidHeader _ => "Invalid header"
  | .unwritable _ => "Failed to serialize response"
  | .misconfigured _ => "Configuration error"
  | .internal _ => "Internal server error"

/-- The kind of the failure and its message. -/
def describe (f : Failure) : String := f.heading ++ ": " ++ f.message

/-- What the database added, if anything. -/
def detail : Failure → Option String
  | .database _ _ detail => detail
  | _ => none

/-- What an audit entry keeps of the failure. -/
def report (f : Failure) (context : String) : Report :=
  { code := f.code, message := f.message, detail := f.detail, context }

end Failure

end RelationGateway
