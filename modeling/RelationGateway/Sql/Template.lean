import RelationGateway.Json.Value

/-!
# Statements with arguments

A statement is built of fixed text, names and arguments. When it is written out, names stand
in quotes, and arguments are replaced by numbered placeholders and handed over beside the
text, so that no argument can change what the statement means.
-/

namespace RelationGateway.Sql

/-- A piece of a statement. -/
inductive Token where
  /-- Text that stands as it is. -/
  | text (s : String)
  /-- The name of a schema, a relation or a column. -/
  | name (identifier : String)
  /-- A value that is handed over beside the text. -/
  | argument (value : String)
deriving DecidableEq, Repr

/-- The pieces of a statement, in order. -/
abbrev Template := List Token

/-- A statement as the database takes it: its text and the values of its placeholders. -/
structure Query where
  /-- The text. -/
  sql : String
  /-- The values of the placeholders, in order. -/
  params : List String
deriving DecidableEq, Repr

/-- A name in quotes; a quote inside is written twice. -/
def quote (name : String) : String :=
  String.ofList ('"' :: (name.toList.flatMap fun c => if c == '"' then ['"', '"'] else [c]) ++ ['"'])

namespace Template

/-- The text of a statement whose first argument has number `n`. -/
def write : (n : Nat) → Template → String
  | _, [] => ""
  | n, .text s :: rest => s ++ write n rest
  | n, .name identifier :: rest => quote identifier ++ write n rest
  | n, .argument _ :: rest => "$" ++ toString n ++ write (n + 1) rest

/-- The arguments of a statement, in order. -/
def arguments (t : Template) : List String :=
  t.filterMap fun
    | .argument value => some value
    | _ => none

/-- The statement as the database takes it. -/
def compile (t : Template) : Query := { sql := t.write 1, params := t.arguments }

/-- Templates one after the other, with a text between. -/
def joined (separator : String) (parts : List Template) : Template :=
  [Token.text separator].intercalate parts

end Template

/-- A statement as JSON. -/
def Query.json (q : Query) : Json := .object [("sql", .text q.sql), ("params", .texts q.params)]

end RelationGateway.Sql
