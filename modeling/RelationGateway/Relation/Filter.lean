import RelationGateway.Delimited

/-!
# Filters

A query variable that is no directive is a filter on the column of its name. Its value is
`[not.]operator.operand`, where the operator compares, matches a pattern with `*` for any
text, tests for a constant, or tests for membership in a list.
-/

namespace RelationGateway

/-- A comparison. -/
inductive Comparison where
  /-- Equal. -/
  | eq
  /-- Not equal. -/
  | neq
  /-- Less. -/
  | lt
  /-- Greater. -/
  | gt
  /-- Less or equal. -/
  | lte
  /-- Greater or equal. -/
  | gte
deriving DecidableEq, Repr

/-- The sign of a comparison in SQL. -/
def Comparison.sign : Comparison → String
  | .eq => "="
  | .neq => "<>"
  | .lt => "<"
  | .gt => ">"
  | .lte => "<="
  | .gte => ">="

/-- A way of matching a pattern. -/
inductive Matching where
  /-- The case of letters counts. -/
  | like
  /-- The case of letters does not count. -/
  | ilike
deriving DecidableEq, Repr

/-- The word for a way of matching in SQL. -/
def Matching.word : Matching → String
  | .like => "LIKE"
  | .ilike => "ILIKE"

/-- A constant that a column can be tested for. -/
inductive Constant where
  /-- The truth value true. -/
  | yes
  /-- The truth value false. -/
  | no
  /-- No value. -/
  | null
deriving DecidableEq, Repr

/-- The word for a constant in SQL. -/
def Constant.word : Constant → String
  | .yes => "TRUE"
  | .no => "FALSE"
  | .null => "NULL"

/-- What a filter asks of a column. -/
inductive Condition where
  /-- A comparison with a value. -/
  | compare (comparison : Comparison) (operand : String)
  /-- A match with a pattern, with `%` for any text. -/
  | matches (matching : Matching) (pattern : String)
  /-- A test for a constant. -/
  | is (constant : Constant)
  /-- Membership in a list. -/
  | among (items : List String)
deriving DecidableEq, Repr

/-- The families of operators, in the order in which their conditions are written. -/
inductive Family where
  /-- Comparisons. -/
  | comparison
  /-- Matches. -/
  | pattern
  /-- Tests for constants. -/
  | is
  /-- Memberships. -/
  | among
deriving DecidableEq, Repr

/-- All families in order. -/
def Family.all : List Family := [.comparison, .pattern, .is, .among]

/-- The family of a condition. -/
def Condition.family : Condition → Family
  | .compare .. => .comparison
  | .matches .. => .pattern
  | .is _ => .is
  | .among _ => .among

/-- A condition on a column, or its contrary. -/
structure Filter where
  /-- The name of the column. -/
  column : String
  /-- The contrary is asked for. -/
  negated : Bool
  /-- The condition. -/
  condition : Condition
deriving DecidableEq, Repr

namespace Filter

/-- The items of a list, which may be enclosed in parentheses. A list is not empty. -/
def items? (operand : String) : Option (List String) :=
  let inner := Text.unenclosed "(" ")" operand
  if inner.isEmpty then none else some (Text.segments "," inner)

/-- The condition that an operator and an operand make. -/
def condition? (operator operand : String) : Option Condition :=
  match operator with
  | "eq" => some (.compare .eq operand)
  | "neq" => some (.compare .neq operand)
  | "lt" => some (.compare .lt operand)
  | "gt" => some (.compare .gt operand)
  | "lte" => some (.compare .lte operand)
  | "gte" => some (.compare .gte operand)
  | "like" => some (.matches .like (Text.substitute '*' '%' operand))
  | "ilike" => some (.matches .ilike (Text.substitute '*' '%' operand))
  | "is" =>
    match operand with
    | "true" => some (.is .yes)
    | "false" => some (.is .no)
    | "null" => some (.is .null)
    | _ => none
  | "in" => (items? operand).map .among
  | _ => none

/-- The filter that a variable's value asks for, if it follows the grammar. -/
def read? (column value : String) : Option Filter := do
  let (negated, positive) :=
    match Text.dropStart? "not." value with
    | some rest => (true, rest)
    | none => (false, value)
  let (operator, operand) ← Text.cut? "." positive
  let condition ← condition? operator operand
  some { column, negated, condition }

end Filter

end RelationGateway
