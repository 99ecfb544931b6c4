import RelationGateway.Relation.Basic
import RelationGateway.Relation.Directive
import RelationGateway.Relation.Filter
import RelationGateway.Sql.Template

/-!
# Selecting rows

A `Select` says which rows of a relation are wanted, and is compiled to a statement that
returns them as one JSON array. When rows are ordered, they are ranked inside and gathered by
rank outside, and the rank itself is left out.

Conditions are written by family of operators: comparisons, patterns, constants, lists.
-/

namespace RelationGateway.Sql

/-- The name under which ordered rows are ranked. -/
def rank : String := "__pgbridge_rn"

/-- The name of a relation. -/
def relationName (r : Relation) : Template :=
  [.name r.name.schema, .text ".", .name r.name.name]

/-- A value cast to the type of a column. -/
def typed (value : String) (column : Column) : Template :=
  [.text "CAST(", .argument value, .text ("::text AS " ++ column.type ++ ")")]

/-- A number of rows. -/
def rowCount (n : Nat) : Template :=
  [.text "CAST(", .argument (toString n), .text "::text AS bigint)"]

/-- The statement that returns the row whose key column has the given value. -/
def lookup (r : Relation) (column : Column) (key : String) : Query :=
  Template.compile
    (.text "SELECT row_to_json(t) FROM " :: relationName r ++
      [.text " AS t WHERE t.", .name column.name, .text " = "] ++ typed key column)

/-- A condition on a column. -/
def condition (column : Column) : Condition → Template
  | .compare comparison operand =>
    [.name column.name, .text (" " ++ comparison.sign ++ " ")] ++ typed operand column
  | .matches matching pattern =>
    [.name column.name, .text ("::text " ++ matching.word ++ " "), .argument pattern]
  | .is constant => [.name column.name, .text (" IS " ++ constant.word)]
  | .among items =>
    [.name column.name, .text " IN ("] ++
      Template.joined ", " (items.map fun item => typed item column) ++ [.text ")"]

/-- A filter on a column. -/
def filterTerm (column : Column) (filter : Filter) : Template :=
  .text (if filter.negated then "NOT (" else "(") :: condition column filter.condition ++
    [.text ")"]

/-- Which rows of a relation are wanted. -/
structure Select where
  /-- The relation. -/
  relation : Relation
  /-- The names of the selected columns, none twice; without any, all columns are. -/
  projection : List String := []
  /-- The filters, each with its column. -/
  filters : List (Column × Filter) := []
  /-- What rows are grouped by. -/
  groups : List Grouping := []
  /-- What rows are ordered by. -/
  order : List SortTerm := []
  /-- The greatest number of rows. -/
  limit : Option Nat := none
  /-- The number of rows left out at the start. -/
  offset : Option Nat := none

namespace Select

/-- Selects a column, once. -/
def select (s : Select) (column : Column) : Select :=
  if s.projection.contains column.name then s
  else { s with projection := s.projection ++ [column.name] }

/-- Adds a filter on a column. -/
def filter (s : Select) (column : Column) (filter : Filter) : Select :=
  { s with filters := s.filters ++ [(column, filter)] }

/-- Groups by a column or a place. -/
def groupBy (s : Select) (grouping : Grouping) : Select :=
  { s with groups := s.groups ++ [grouping] }

/-- Orders by a column. -/
def orderBy (s : Select) (column : Column) (direction : Option Direction) : Select :=
  { s with order := s.order ++ [{ column := column.name, direction }] }

/-- Sets the greatest number of rows. -/
def withLimit (s : Select) (n : Nat) : Select := { s with limit := some n }

/-- Sets the number of rows left out at the start. -/
def withOffset (s : Select) (n : Nat) : Select := { s with offset := some n }

/-- The filters family by family, those of one family in the order in which they were added. -/
def filtersByFamily (s : Select) : List (Column × Filter) :=
  Family.all.flatMap fun family =>
    s.filters.filter fun (_, filter) => filter.condition.family == family

/-- A column to order by. -/
def sortTerm (term : SortTerm) : Template :=
  .name term.column ::
    match term.direction with
    | some direction => [.text (" " ++ direction.word)]
    | none => []

/-- The columns to order by. -/
def sortTerms (s : Select) : Template := Template.joined ", " (s.order.map sortTerm)

/-- What rows are grouped by. -/
def groupTerm : Grouping → Template
  | .column name => [.name name]
  | .position n => [.text (toString n)]

/-- The names of the columns of the rows that are returned. -/
def outputColumns (s : Select) : List String :=
  if s.projection.isEmpty then s.relation.columns.map (·.name) else s.projection

/-- The list of what is selected, with the rank if rows are ordered. -/
def projectionTemplate (s : Select) : Template :=
  (if s.projection.isEmpty then [.text "*"]
    else Template.joined ", " (s.projection.map fun name => [.name name])) ++
  (if s.order.isEmpty then []
    else .text ", row_number() OVER (ORDER BY " :: s.sortTerms ++ [.text ") AS ", .name rank])

/-- The parts of a clause after its word, or nothing if there are none. -/
def clause (word separator : String) (parts : List Template) : Template :=
  if parts.isEmpty then [] else .text word :: Template.joined separator parts

/-- A clause with a number of rows, or nothing. -/
def countClause (word : String) : Option Nat → Template
  | some n => .text word :: rowCount n
  | none => []

/-- The statement that selects the rows. -/
def rows (s : Select) : Template :=
  .text "SELECT " :: s.projectionTemplate ++ .text " FROM " :: relationName s.relation ++
    clause " WHERE " " AND " (s.filtersByFamily.map fun (column, f) => filterTerm column f) ++
    clause " GROUP BY " ", " (s.groups.map groupTerm) ++
    clause " ORDER BY " ", " (s.order.map sortTerm) ++
    countClause " LIMIT " s.limit ++ countClause " OFFSET " s.offset

/-- The statement that returns the rows as one JSON array, empty if there are none. -/
def template (s : Select) : Template :=
  if s.order.isEmpty then
    .text "SELECT coalesce(json_agg(row_to_json(q)), '[]'::json) FROM (" :: s.rows ++
      [.text ") AS q"]
  else
    [.text "SELECT coalesce(json_agg(row_to_json(r) ORDER BY q.", .name rank,
      .text "), '[]'::json) FROM ("] ++ s.rows ++ .text ") AS q, LATERAL (SELECT " ::
      Template.joined ", " (s.outputColumns.map fun name => [.text "q.", .name name]) ++
      [.text ") AS r"]

/-- The statement as the database takes it. -/
def compile (s : Select) : Query := s.template.compile

end Select

end RelationGateway.Sql
