import RelationGateway.NameTable
import RelationGateway.Sql.Select

/-!
# Listings

The query variables of a request ask for a listing of a relation. They are checked in a fixed
order: unknown columns, malformed orderings, malformed filters, malformed numbers of rows. The
first check that fails reports everything it finds, and what passes all of them compiles.
-/

namespace RelationGateway

/-- Why query variables ask for no listing. -/
inductive Objection where
  /-- Columns that the relation does not have. -/
  | unknownColumns (names : List String)
  /-- Items of the ordering that are not well formed. -/
  | malformedOrder (items : List String)
  /-- Filters outside the grammar, as name and value. -/
  | malformedFilters (texts : List String)
  /-- Numbers of rows that are no numbers, as name and value. -/
  | malformedCounts (texts : List String)
deriving DecidableEq, Repr

/-- An objection as JSON. -/
def Objection.json : Objection → Json
  | .unknownColumns names =>
    .object [("error", .text "unknown columns"), ("columns", .texts names)]
  | .malformedOrder items =>
    .object [("error", .text "malformed order_sql"), ("order", .texts items)]
  | .malformedFilters texts =>
    .object [("error", .text "malformed clauses"), ("clauses", .texts texts)]
  | .malformedCounts texts =>
    .object [("error", .text "malformed pagination"), ("pagination", .texts texts)]

/-- What query variables ask for. -/
structure Listing where
  /-- The filters, in the order of their variables. -/
  filters : List Filter := []
  /-- The names of the selected columns. -/
  select : List String := []
  /-- What rows are grouped by. -/
  groups : List Grouping := []
  /-- What rows are ordered by. -/
  order : List SortTerm := []
  /-- The greatest number of rows. -/
  limit : Option Nat := none
  /-- The number of rows left out at the start. -/
  offset : Option Nat := none
deriving DecidableEq, Repr

namespace Listing

/-- The items of the directive of the given name. -/
def directiveItems (query : NameTable .exact) (name : String) : List String :=
  ((query.get? name).map Directive.items).getD []

/-- The variables that are filters, in order. -/
def filterVariables (query : NameTable .exact) : List (String × String) :=
  query.toList.filter fun (name, _) => !Directive.isName name

/-- What the `group` directive groups by. -/
def groupings (query : NameTable .exact) : List Grouping :=
  (directiveItems query "group").map Grouping.read

/-- The list without the later ones of equal items. -/
def distinct (items : List String) : List String :=
  items.foldl (fun kept item => if kept.contains item then kept else kept ++ [item]) []

/-- The name of the column that rows are grouped by, if it is a column. -/
def groupedColumn? : Grouping → Option String
  | .column name => some name
  | .position _ => none

/-- The names of columns that the variables mention, each once, in order. -/
def mentioned (query : NameTable .exact) : List String :=
  distinct <|
    (filterVariables query).map (·.1) ++ directiveItems query "select" ++
      (groupings query).filterMap groupedColumn? ++
      (directiveItems query "order").map SortTerm.columnName

/-- A variable as it is written, name and value. -/
def written (pair : String × String) : String := pair.1 ++ "=" ++ pair.2

/-- The filter that a variable asks for. -/
def readFilter? (pair : String × String) : Option Filter := Filter.read? pair.1 pair.2

/-- The number of rows that the directive of the given name gives, if it is there and gives
one. -/
def directiveCount? (query : NameTable .exact) (name : String) : Option Nat :=
  (query.get? name).bind Directive.count?

/-- The directive of the given name as it is written, if it is there and gives no number of
rows. -/
def malformedCount? (query : NameTable .exact) (name : String) : Option String :=
  (query.get? name).bind fun value =>
    if (Directive.count? value).isSome then none else some (written (name, value))

/-- The greatest number of rows, given the wanted one and the one set from outside. -/
def cappedLimit : (wanted cap : Option Nat) → Option Nat
  | some wanted, some cap => some (min wanted cap)
  | none, some cap => some cap
  | wanted, none => wanted

/-- The listing that query variables ask for, or the first objection. -/
def check (r : Relation) (maxLimit : Option Nat) (query : NameTable .exact) :
    Except Objection Listing :=
  let unknown := (mentioned query).filter fun name => !r.hasColumn name
  let order := directiveItems query "order"
  let malformedOrder := order.filter fun item => (SortTerm.read? item).isNone
  let filters := filterVariables query
  let malformedFilters := filters.filter fun pair => (readFilter? pair).isNone
  let malformedCounts := ["limit", "offset"].filterMap (malformedCount? query)
  -- Only the first check that fails is reported.
  if !unknown.isEmpty then .error (.unknownColumns unknown)
  else if !malformedOrder.isEmpty then .error (.malformedOrder malformedOrder)
  else if !malformedFilters.isEmpty then .error (.malformedFilters (malformedFilters.map written))
  else if !malformedCounts.isEmpty then .error (.malformedCounts malformedCounts)
  else
    .ok
      { filters := filters.filterMap readFilter?
        select := directiveItems query "select"
        groups := groupings query
        order := order.filterMap SortTerm.read?
        limit := cappedLimit (directiveCount? query "limit") maxLimit
        offset := directiveCount? query "offset" }

/-- The column of the given name; it was there when the listing was checked. -/
def knownColumn (r : Relation) (name : String) : Except Failure Column :=
  match r.column? name with
  | some column => .ok column
  | none => .error (.internal ("column " ++ name ++ " vanished after validation"))

/-- Adds what rows are grouped by. -/
def addGroup (r : Relation) (s : Sql.Select) : Grouping → Except Failure Sql.Select
  | .column name => (knownColumn r name).map fun column => s.groupBy (.column column.name)
  | .position n => .ok (s.groupBy (.position n))

/-- The rows that a listing asks for. -/
def toSelect (r : Relation) (l : Listing) : Except Failure Sql.Select := do
  let s : Sql.Select := { relation := r }
  let s ← l.select.foldlM (fun s name => (knownColumn r name).map s.select) s
  let s ← l.filters.foldlM (fun s f => (knownColumn r f.column).map fun c => s.filter c f) s
  let s ← l.groups.foldlM (addGroup r) s
  let s ← l.order.foldlM
    (fun s term => (knownColumn r term.column).map fun c => s.orderBy c term.direction) s
  let s := l.limit.elim s s.withLimit
  return l.offset.elim s s.withOffset

/-- The statement that answers a listing. -/
def compile (r : Relation) (l : Listing) : Except Failure Sql.Query :=
  (l.toSelect r).map Sql.Select.compile

end Listing

end RelationGateway
