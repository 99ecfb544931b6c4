import RelationGateway.Decimal

/-!
# JSON values

Values that are exchanged with clients and with the database. An object keeps its members in
the order in which they were first named; numbers are exact integers or shortest decimals.
-/

namespace RelationGateway

/-- A JSON value. -/
inductive Json where
  /-- The value `null`. -/
  | null
  /-- A truth value. -/
  | bool (b : Bool)
  /-- An integer, kept exactly. -/
  | int (n : Int)
  /-- A binary64 number, given by its shortest decimal. -/
  | real (d : Decimal)
  /-- A text. -/
  | text (s : String)
  /-- An array. -/
  | list (items : List Json)
  /-- An object, as its members in order. -/
  | object (members : List (String × Json))
deriving BEq, Inhabited, Repr

namespace Json

/-- An array of texts. -/
def texts (items : List String) : Json := .list (items.map .text)

/-- A text, or `null` for none. -/
def optional : Option String → Json
  | some s => .text s
  | none => .null

/-- Members with one more; a member of that name keeps its place and takes the new value. -/
def withMember (members : List (String × Json)) (name : String) (value : Json) :
    List (String × Json) :=
  if members.any (·.1 == name) then
    members.map fun m => if m.1 == name then (m.1, value) else m
  else
    members ++ [(name, value)]

/-- The member of an object with the given name. -/
def member? (name : String) : Json → Option Json
  | .object members => (members.find? (·.1 == name)).map (·.2)
  | _ => none

end Json

end RelationGateway
