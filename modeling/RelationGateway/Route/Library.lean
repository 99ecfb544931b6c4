import RelationGateway.Route.ProgramSize
import RelationGateway.Route.RegexReader

/-!
# Libraries for regular expressions

Which texts are regular expressions, and what they match, is left to a library. All that is used of
it is that a text may be compiled to a test for other texts.
-/

namespace RelationGateway.Route

/-- A library for regular expressions. -/
structure Library where
  /-- The test whether an expression matches some part of a text, if the expression can be used. -/
  compile? : (expression : String) → Option (String → Bool)

/-- The library that reads expressions and searches texts for them. Expressions that are too large
cannot be used, nor can those with flags, boundaries of words or classes of Unicode. -/
def Library.ofRegex : Library where
  compile? expression := ((Regex.read? expression).filter Regex.isUsable).map Regex.occursIn

end RelationGateway.Route
