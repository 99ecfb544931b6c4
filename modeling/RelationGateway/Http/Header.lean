/-!
# Header names and values

What may stand in a header that is sent: a name is a nonempty token, and a value holds only
visible ASCII characters, spaces and tabs, so that neither can begin another line.
-/

namespace RelationGateway.Http

/-- The character may stand in a token. -/
def isTokenChar (c : Char) : Bool :=
  c.isAlphanum || "!#$%&'*+-.^_\x60|~".toList.contains c

/-- The text is a nonempty token. -/
def isHeaderName (name : String) : Bool :=
  !name.isEmpty && name.toList.all isTokenChar

/-- The character may stand in the value of a header. -/
def isValueChar (c : Char) : Bool := c == '\t' || (' ' ≤ c && c ≤ '~')

/-- The text may be the value of a header. -/
def isHeaderValue (value : String) : Bool := value.toList.all isValueChar

end RelationGateway.Http
