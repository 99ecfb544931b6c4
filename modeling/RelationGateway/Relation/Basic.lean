import RelationGateway.Delimited
import RelationGateway.Failure

/-!
# Relations

A relation of the database, known by a schema and a name, with its columns.
-/

namespace RelationGateway

/-- A schema and a name in it. -/
structure QualifiedName where
  /-- The schema. -/
  schema : String
  /-- The name in the schema. -/
  name : String
deriving DecidableEq, Repr

namespace QualifiedName

/-- The name that a path segment stands for: what stands before and after its first dot, or
the whole segment in the default schema if one of the two is missing. -/
def ofSegment (segment defaultSchema : String) : QualifiedName :=
  match Text.cut? "." segment with
  | some (schema, name) =>
    if schema.isEmpty || name.isEmpty then ⟨defaultSchema, segment⟩ else ⟨schema, name⟩
  | none => ⟨defaultSchema, segment⟩

/-- Schema and name with a dot between. -/
def text (n : QualifiedName) : String := n.schema ++ "." ++ n.name

end QualifiedName

/-- A column of a relation. -/
structure Column where
  /-- The name. -/
  name : String
  /-- The type, as the database writes it. -/
  type : String
  /-- The column belongs to the primary key. -/
  inPrimaryKey : Bool := false
deriving DecidableEq, Repr

/-- A relation. -/
structure Relation where
  /-- The name of the relation. -/
  name : QualifiedName
  /-- The columns, in order. -/
  columns : List Column
deriving DecidableEq, Repr

namespace Relation

/-- The first column of the given name. -/
def column? (r : Relation) (name : String) : Option Column := r.columns.find? (·.name == name)

/-- The relation has a column of the given name. -/
def hasColumn (r : Relation) (name : String) : Bool := (r.column? name).isSome

/-- The only column of the primary key. A relation without a key, or with a key of several
columns, offers no look-up. -/
def keyColumn (r : Relation) : Except Failure Column :=
  match r.columns.filter (·.inPrimaryKey) with
  | [column] => .ok column
  | [] => .error (.unsupported ("relation " ++ r.name.text ++ " has no primary key"))
  | _ => .error (.unsupported ("relation " ++ r.name.text ++ " has a composite primary key"))

end Relation

end RelationGateway
