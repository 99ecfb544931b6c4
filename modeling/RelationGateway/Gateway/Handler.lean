import RelationGateway.Audit.Entry
import RelationGateway.Reply.Page

/-!
# Handlers

A handler answers requests. Running it leaves a draft and an ending: a status, a failure, or a
crash. Only the draft of a run that ends with a status is sent, and only if its headers can be;
whatever else happened, the client gets an error page with nothing of the draft.
-/

namespace RelationGateway

/-- How the run of a handler ends. -/
inductive Ending where
  /-- With a status. -/
  | answered (status : UInt16)
  /-- With a failure. -/
  | failed (failure : Failure)
  /-- By breaking off, with a text if there is one. -/
  | crashed (text : Option String)
deriving DecidableEq, Repr

/-- The run of a handler: what it wrote and how it ended. -/
structure Run where
  /-- What was written. -/
  draft : Draft := {}
  /-- How it ended. -/
  ending : Ending

/-- What answers requests. -/
structure Handler (m : Type → Type) where
  /-- The pattern of the paths that are answered. -/
  pattern : String
  /-- The handler answers requests for the path with the method. -/
  accepts : String → Http.Method → Bool
  /-- Answers a request. -/
  run : Request → m Run

/-- What is answered to a request and kept of it. -/
structure Verdict where
  /-- The status of the answer. -/
  status : UInt16
  /-- The answer. -/
  output : String
  /-- Why the request failed, if it did. -/
  error : Option Report := none
  /-- What the handler kept for debugging. -/
  debug : Option Json := none

/-- The verdict on a failed request: an error page and a report. -/
def Verdict.ofFailure (failure : Failure) (context : String) (debug : Option Json := none) :
    Verdict :=
  { status := failure.status
    output := Page.response failure.status failure.message
    error := some (failure.report context)
    debug }

namespace Run

/-- The failure that a crash counts as. -/
def crashFailure (text : Option String) : Failure :=
  .handlerCrashed (text.getD "panic occurred in handler")

/-- The status and the response that a run makes, or its failure. -/
def result (run : Run) : Except Failure (UInt16 × String) :=
  match run.ending with
  | .answered status => (run.draft.finish status).map fun output => (status, output)
  | .failed failure => .error failure
  | .crashed text => .error (crashFailure text)

/-- The verdict on a run for the request named by `context`. -/
def verdict (run : Run) (context : String) : Verdict :=
  match run.result with
  | .ok (status, output) => { status, output, debug := run.draft.debug }
  | .error failure => .ofFailure failure context run.draft.debug

end Run

/-- Runs a handler once and gives the verdict. -/
def Handler.answer {m : Type → Type} [Monad m] (h : Handler m) (r : Request) : m Verdict := do
  let run ← h.run r
  return run.verdict r.line

/-- The entry with a verdict on its request. -/
def Audit.Entry.judged (e : Audit.Entry) (v : Verdict) : Audit.Entry :=
  { e with status := v.status, error := v.error, debug := v.debug }

end RelationGateway
