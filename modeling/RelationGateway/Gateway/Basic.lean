import RelationGateway.Gateway.Handler
import RelationGateway.Log.Entry
import RelationGateway.Request.Identity
import RelationGateway.Request.Payload

/-!
# The gateway

A gateway holds handlers, the most specific first, places where audit entries are kept, settings,
and what expands compressed bodies. It always answers with a complete response, keeps one audit
entry of every request in every place, and logs every failure.
-/

namespace RelationGateway

/-- What the gateway needs of the world around it. -/
structure Host (m : Type → Type) where
  /-- A new identifier for an audit entry. -/
  newId : m String
  /-- The time at which a request arrives. -/
  timestamp : m String
  /-- A clock that counts microseconds. -/
  clock : m Nat
  /-- The stamp of an entry of the failure log. -/
  stamp : m Log.Stamp
  /-- Appends an entry to the failure log at the given place, if it can. -/
  appendLog : String → String → m Unit

/-- A gateway. -/
structure Gateway (m : Type → Type) where
  /-- The handlers, those with more slashes in their patterns first. -/
  handlers : List (Handler m) := []
  /-- The places where audit entries are kept. -/
  sinks : List (Audit.Sink m) := []
  /-- The settings. -/
  settings : Settings := {}
  /-- What expands compressed bodies. -/
  expander : Gzip.Expander := .ofMembers

/-- The number of slashes in the pattern of a handler. -/
def Handler.depth {m : Type → Type} (h : Handler m) : Nat := h.pattern.toList.count '/'

namespace Gateway

variable {m : Type → Type} [Monad m]

/-- The gateway with one more handler, after all that are at least as deep. -/
def withHandler (g : Gateway m) (h : Handler m) : Gateway m :=
  { g with
    handlers := g.handlers.takeWhile (h.depth ≤ ·.depth) ++
      h :: g.handlers.dropWhile (h.depth ≤ ·.depth) }

/-- The gateway with one more place for audit entries. -/
def withSink (g : Gateway m) (sink : Audit.Sink m) : Gateway m :=
  { g with sinks := g.sinks ++ [sink] }

/-- The gateway with other settings. -/
def withSettings (g : Gateway m) (settings : Settings) : Gateway m := { g with settings }

/-- The first handler that accepts the path and the method. -/
def handler? (g : Gateway m) (path : String) (method : Http.Method) : Option (Handler m) :=
  g.handlers.find? fun h => h.accepts path method

/-- The failure of a request that no handler accepts. -/
def noRoute (r : Request) : Failure := .routeNotFound (r.method.text ++ " " ++ r.path)

/-- Runs the handler of a request whose body has been read, or not. -/
def judge (g : Gateway m) (identity : Request) (read : Except Failure Request) : m Verdict :=
  match read with
  | .error failure => return .ofFailure failure ("request decoding: " ++ identity.line)
  | .ok request =>
    match g.handler? request.path request.method with
    | some handler => handler.answer request
    | none => return .ofFailure (noRoute request) request.line

/-- Finishes an entry with the verdict, logs the failure if there is one, and keeps the entry
in every place whether or not others fail. -/
def conclude (g : Gateway m) (host : Host m) (entry : Audit.Entry) (started : Nat)
    (request : Request) (verdict : Verdict) : m String := do
  let now ← host.clock
  let entry := (entry.judged verdict).finished (now - started) verdict.output
  match g.settings.errorLogPath, verdict.error with
  | some path, some report =>
    let stamp ← host.stamp
    host.appendLog path (Log.entry stamp (Log.describe report (some request)))
  | _, _ => pure ()
  g.sinks.forM fun sink => do
    -- A place that fails does not keep the others from their entry.
    let _ ← sink.keep entry
  return verdict.output

/-- The entry of a request that has just arrived. -/
def arrive (host : Host m) (environment : String) (input : List UInt8) : m (Audit.Entry × Nat) := do
  let started ← host.clock
  let id ← host.newId
  let timestamp ← host.timestamp
  let entry := (Audit.Entry.begin environment input).identified (Request.identify environment)
  return ({ entry with id, timestamp }, started)

/-- Answers a request. -/
def answer (g : Gateway m) (host : Host m) (environment : String) (input : List UInt8) :
    m String := do
  let (entry, started) ← arrive host environment input
  let identity := Request.identify environment
  let read := identity.read input g.settings g.expander
  let verdict ← g.judge identity read
  g.conclude host entry started ((read.toOption).getD identity) verdict

/-- Answers a request that cannot be run with the failure that keeps it from running. -/
def refuse (g : Gateway m) (host : Host m) (environment : String) (input : List UInt8)
    (failure : Failure) : m String := do
  let (entry, started) ← arrive host environment input
  let identity := Request.identify environment
  g.conclude host entry started identity (.ofFailure failure ("startup: " ++ identity.line))

end Gateway

end RelationGateway
