import RelationGateway.Gateway.Handler
import RelationGateway.Route.Library

/-!
# Routes

A route answers requests with one method for the paths that a pattern matches. Patterns are
anchored at both ends before they are used. A pattern that is no usable expression matches no
path, or is refused where it is checked.
-/

namespace RelationGateway.Route

/-- The pattern with an anchor at both ends. -/
def anchored (pattern : String) : String :=
  if pattern.toList.head? == some '^' && pattern.toList.getLast? == some '$' then pattern
  else "^" ++ Text.trimEndBy (· == '$') (Text.trimStartBy (· == '^') pattern) ++ "$"

/-- The anchored pattern, or why it cannot be used. -/
def checked (pattern : String) (library : Library := .ofRegex) : Except Failure String :=
  if pattern.isEmpty then .error (.misconfigured "Empty regex pattern is not allowed")
  else if (library.compile? (anchored pattern)).isSome then .ok (anchored pattern)
  else .error (.misconfigured ("Invalid route pattern '" ++ pattern ++ "'"))

variable {m : Type → Type}

/-- The handler that answers requests with a method for the paths that a pattern matches. -/
def handler (method : Http.Method) (pattern : String) (run : Request → m Run)
    (library : Library := .ofRegex) : Handler m :=
  let test := library.compile? (anchored pattern)
  { pattern := anchored pattern
    accepts := fun path asked => asked == method && test.any (· path)
    run }

/-- The handler of a route whose pattern is checked first. -/
def checkedHandler (method : Http.Method) (pattern : String) (run : Request → m Run)
    (library : Library := .ofRegex) : Except Failure (Handler m) :=
  (checked pattern library).map fun _ => handler method pattern run library

end RelationGateway.Route
