import RelationGateway.Text.Class.GraphemeExtend
import RelationGateway.Text.Class.Printable

/-!
# Text shown with escapes

A text is shown inside a message with quotes, backslashes, line breaks and everything that
cannot be printed written as escapes. A first character that would attach to the text before
it is escaped too.
-/

namespace RelationGateway.Text

/-- The character by its code point in small hexadecimal digits, between braces. -/
def codePointEscape (c : Char) : List Char :=
  ['\\', 'u', '\x7b'] ++ Nat.toDigits 16 c.toNat ++ ['\x7d']

/-- A character as it is shown; `first` tells that it opens the text. -/
def shown (first : Bool) (c : Char) : List Char :=
  match c with
  | '\x00' => ['\\', '0']
  | '\t' => ['\\', 't']
  | '\n' => ['\\', 'n']
  | '\r' => ['\\', 'r']
  | '\'' => ['\\', '\'']
  | '"' => ['\\', '"']
  | '\\' => ['\\', '\\']
  | _ =>
    if (first && isGraphemeExtend c) || !isPrintable c then codePointEscape c else [c]

/-- The text as it is shown inside a message. -/
def escaped (s : String) : String :=
  match s.toList with
  | [] => ""
  | c :: rest => String.ofList (shown true c ++ rest.flatMap (shown false))

end RelationGateway.Text
