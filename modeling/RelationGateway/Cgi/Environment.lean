import RelationGateway.Delimited
import RelationGateway.NameTable
import RelationGateway.Text.Trim

/-!
# The environment of a request

A request comes with a block of text: a banner line and then one line `NAME=value` for each
variable. Variables whose names begin with `HTTP_` are the headers of the request.

* `write` — makes a block of variables;
* `read` — the variables of a block;
* `headers` — the headers among them.
-/

namespace RelationGateway.Cgi

/-- The first line of a block, which is never read. -/
def banner : String := "# pgbridge environment"

/-- The character may begin the name of a variable. -/
def beginsName (c : Char) : Bool := c.isAlpha || c == '_'

/-- The character may stand in the name of a variable. -/
def inName (c : Char) : Bool := c.isAlphanum || c == '_'

/-- The text is the name of a variable. -/
def isVariableName (name : String) : Bool :=
  match name.toList with
  | [] => false
  | c :: rest => beginsName c && rest.all inName

/-- The variable of a line, if the line has one. -/
def readLine? (line : String) : Option (String × String) :=
  (Text.cut? "=" (Text.trim line)).filter fun (name, _) => isVariableName name

/-- The variables of a block, in order. -/
def read (block : String) : List (String × String) :=
  ((Text.segments "\n" block).drop 1).filterMap readLine?

/-- The first line of a text, without its line break. -/
def firstLine (value : String) : String :=
  match Text.cut? "\n" value with
  | some (line, _) => (Text.dropTail? "\r" line).getD line
  | none => value

/-- A variable as a line of a block. Only the first line of its value can be kept. -/
def writeLine (pair : String × String) : String :=
  "\n" ++ pair.1 ++ "=" ++ firstLine pair.2

/-- A block of variables. -/
def write (vars : List (String × String)) : String :=
  banner ++ String.join (vars.map writeLine)

/-- A word with its first letter capital and the others small. -/
def capitalised (word : String) : String :=
  match word.toList with
  | [] => ""
  | c :: rest => String.ofList (c.toUpper :: rest.map Char.toLower)

/-- The name of the header that a variable carries, if it carries one. -/
def headerName? (name : String) : Option String :=
  (Text.dropStart? "HTTP_" name).map fun rest =>
    String.intercalate "-" ((Text.segments "_" rest).map capitalised)

/-- The header that a variable carries. -/
def header? (pair : String × String) : Option (String × String) :=
  (headerName? pair.1).map fun name => (name, pair.2)

/-- The headers among the variables; of two with one name the first counts. -/
def headers (vars : List (String × String)) : NameTable .ignoringCase :=
  NameTable.ofList (vars.filterMap header?)

end RelationGateway.Cgi
