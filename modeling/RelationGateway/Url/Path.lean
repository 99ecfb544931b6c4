import RelationGateway.Delimited
import RelationGateway.Text.Trim

/-!
# Paths

A URL is a path and, after the first question mark, a query string. A path is a row of segments
between slashes; slashes at its ends do not count.
-/

namespace RelationGateway.Url

/-- The path and the query string of a URL. -/
def parts (url : String) : String × String := (Text.cut? "?" url).getD (url, "")

/-- The segments of a path; the root has none. -/
def pathSegments (path : String) : List String :=
  let inner := Text.trimBy (· == '/') path
  if inner.isEmpty then [] else Text.segments "/" inner

end RelationGateway.Url
