import RelationGateway.Json.Value

/-!
# The text of a JSON value

Values are written without blanks. In texts the quote, the backslash and the control
characters below the space are escaped, and everything else stands for itself.
-/

namespace RelationGateway.Json

/-- A small hexadecimal digit. -/
def hexDigit (n : Nat) : Char := Nat.digitChar (n % 16)

/-- A character inside a quoted text. -/
def quotedChar (c : Char) : List Char :=
  match c with
  | '"' => ['\\', '"']
  | '\\' => ['\\', '\\']
  | '\n' => ['\\', 'n']
  | '\r' => ['\\', 'r']
  | '\t' => ['\\', 't']
  | '\x08' => ['\\', 'b']
  | '\x0c' => ['\\', 'f']
  | _ =>
    if c.toNat < 0x20 then
      ['\\', 'u', '0', '0', hexDigit (c.toNat / 16), hexDigit c.toNat]
    else
      [c]

/-- A text in quotes. -/
def quoted (s : String) : String :=
  String.ofList ('"' :: (s.toList.flatMap quotedChar ++ ['"']))

mutual

/-- The text of a value. -/
def write : Json → String
  | .null => "null"
  | .bool true => "true"
  | .bool false => "false"
  | .int n => toString n
  | .real d => d.text
  | .text s => quoted s
  | .list items => "[" ++ String.intercalate "," (writeItems items) ++ "]"
  | .object members => "\x7b" ++ String.intercalate "," (writeMembers members) ++ "\x7d"

/-- The texts of the items of an array. -/
def writeItems : List Json → List String
  | [] => []
  | item :: rest => write item :: writeItems rest

/-- The texts of the members of an object, each a name and a value. -/
def writeMembers : List (String × Json) → List String
  | [] => []
  | (name, value) :: rest => (quoted name ++ ":" ++ write value) :: writeMembers rest

end

end RelationGateway.Json
