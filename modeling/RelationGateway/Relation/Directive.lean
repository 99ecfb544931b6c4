import RelationGateway.Delimited
import RelationGateway.Text.Numeral
import RelationGateway.Text.Trim

/-!
# Directives

Five query variables direct a listing: which columns are selected, how rows are grouped and
ordered, and which part of them is wanted.
-/

namespace RelationGateway

namespace Directive

/-- The names of the directives, which are never filters. -/
def names : List String := ["select", "group", "order", "limit", "offset"]

/-- The name is that of a directive. -/
def isName (name : String) : Bool := names.contains name

/-- The items of a list between commas, without blanks around them; empty items do not count. -/
def items (value : String) : List String :=
  ((Text.segments "," value).map Text.trim).filter fun item => !item.isEmpty

/-- A number of rows. -/
def count? (value : String) : Option Nat :=
  let digits := Text.trim value
  if Text.isDigits digits then Text.unsigned? Text.maxUnsigned64 digits else none

end Directive

/-- A direction of ordering. -/
inductive Direction where
  /-- The least first. -/
  | ascending
  /-- The greatest first. -/
  | descending
deriving DecidableEq, Repr

/-- The word for a direction in SQL. -/
def Direction.word : Direction → String
  | .ascending => "ASC"
  | .descending => "DESC"

/-- A column to order by. -/
structure SortTerm where
  /-- The name of the column. -/
  column : String
  /-- The direction, if it is given. -/
  direction : Option Direction
deriving DecidableEq, Repr

namespace SortTerm

/-- The name of the column that an item of an ordering names, whether or not the item is well
formed: all before its first dot. -/
def columnName (item : String) : String :=
  match Text.cut? "." item with
  | some (name, _) => name
  | none => item

/-- The direction after the dot. -/
def direction? : String → Option Direction
  | "asc" => some .ascending
  | "desc" => some .descending
  | _ => none

/-- The term that an item of an ordering stands for, if it is well formed. -/
def read? (item : String) : Option SortTerm := do
  let (column, direction) ←
    match Text.cut? "." item with
    | none => some (item, none)
    | some (column, word) => (direction? word).map fun d => (column, some d)
  if column.isEmpty then none else some { column, direction }

end SortTerm

/-- What rows are grouped by. -/
inductive Grouping where
  /-- A column. -/
  | column (name : String)
  /-- The column at a place of the selection. -/
  | position (n : Nat)
deriving DecidableEq, Repr

/-- What an item of a grouping stands for: a number of 32 bits is a place. -/
def Grouping.read (item : String) : Grouping :=
  match if Text.isDigits item then Text.unsigned? Text.maxUnsigned32 item else none with
  | some n => .position n
  | none => .column item

end RelationGateway
