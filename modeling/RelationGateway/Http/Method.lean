import RelationGateway.Text.Case

/-!
# Request methods

The methods known by name, read in any letter case, and every other method as it is written.
-/

namespace RelationGateway.Http

/-- A request method. -/
inductive Method where
  /-- Asks for a resource. -/
  | get
  /-- Sends data to a resource. -/
  | post
  /-- Replaces a resource. -/
  | put
  /-- Removes a resource. -/
  | delete
  /-- Changes a resource in part. -/
  | patch
  /-- Asks for the headers of a resource. -/
  | head
  /-- Asks what may be done with a resource. -/
  | options
  /-- A method known only by its text. -/
  | other (text : String)
deriving DecidableEq, Repr

namespace Method

/-- The text of a method. -/
def text : Method → String
  | .get => "GET"
  | .post => "POST"
  | .put => "PUT"
  | .delete => "DELETE"
  | .patch => "PATCH"
  | .head => "HEAD"
  | .options => "OPTIONS"
  | .other text => text

/-- The methods known by name. -/
def known : List Method := [.get, .post, .put, .delete, .patch, .head, .options]

/-- The known method whose name is the upper case of the text. -/
def named? (text : String) : Option Method :=
  known.find? fun method => method.text == Text.upper text

/-- The method that a text stands for. -/
def ofText (text : String) : Method := (named? text).getD (.other text)

end Method

end RelationGateway.Http
