import RelationGateway.Route.Regex
import RelationGateway.Route.SetReader
import RelationGateway.Text.Class.Alphabetic
import RelationGateway.Text.Class.Number
import RelationGateway.Text.Numeral

/-!
# Reading regular expressions

Alternatives stand between bars, and each is a row of atoms with their repetitions. An atom is
a character, an escape, a class, an anchor or a group. A text that follows no rule is no
expression: brackets and parentheses must be paired, a repetition needs something to repeat,
and its bounds must be in order. There are no rules for flags, boundaries of words and classes of
Unicode.
-/

namespace RelationGateway.Regex

/-- A number of 32 bits, with blanks around it, and the rest. -/
def readBound? (cs : List Char) : Option (Nat × List Char) :=
  let cs := cs.dropWhile Text.isBlank
  let digits := cs.takeWhile Char.isDigit
  ((Text.digitsValue? digits).filter (· ≤ Text.maxUnsigned32)).map fun n =>
    (n, (cs.dropWhile Char.isDigit).dropWhile Text.isBlank)

/-- The bounds of a repetition after its opening brace. -/
def readBounds? (cs : List Char) : Option ((Nat × Option Nat) × List Char) := do
  let (least, rest) ← readBound? cs
  match rest with
  | '\x7d' :: rest => some ((least, some least), rest)
  | ',' :: '\x7d' :: rest => some ((least, none), rest)
  | ',' :: rest =>
    let (most, rest) ← readBound? rest
    match rest with
    | '\x7d' :: rest => if least ≤ most then some ((least, some most), rest) else none
    | _ => none
  | _ => none

/-- Whether a repetition is eager: it is unless a question mark follows. And the rest. -/
def readEager : List Char → Bool × List Char
  | '?' :: rest => (false, rest)
  | cs => (true, cs)

/-- The bounds of a repetition, and the rest. -/
def readTimes? : List Char → Option ((Nat × Option Nat) × List Char)
  | '*' :: rest => some ((0, none), rest)
  | '+' :: rest => some ((1, none), rest)
  | '?' :: rest => some ((0, some 1), rest)
  | '\x7b' :: rest => readBounds? rest
  | _ => none

/-- The text goes on with a repetition. -/
def repeats (cs : List Char) : Bool := ['*', '+', '?', '\x7b'].any (cs.head? == some ·)

/-- An atom with the repetitions after it. -/
def readRepeats? : (fuel : Nat) → Regex → List Char → Option (Regex × List Char)
  | 0, r, cs => some (r, cs)
  | fuel + 1, r, cs =>
    if repeats cs then do
      let ((least, most), rest) ← readTimes? cs
      let (eager, rest) := readEager rest
      readRepeats? fuel (.repeated r least most eager) rest
    else some (r, cs)

/-- The name of a group may begin with the character. -/
def opensGroupName (c : Char) : Bool := c == '_' || Text.isAlphabetic c

/-- The name of a group may go on with the character. -/
def continuesGroupName (c : Char) : Bool :=
  opensGroupName c || Text.isNumber c || c == '.' || c == '[' || c == ']'

/-- The text is the name of a group. -/
def isGroupName : List Char → Bool
  | [] => false
  | c :: rest => opensGroupName c && rest.all continuesGroupName

/-- The name of a group up to its closing bracket. -/
def readGroupName? (cs : List Char) : Option (GroupKind × List Char) :=
  let name := cs.takeWhile (· != '>')
  match cs.dropWhile (· != '>') with
  | '>' :: rest => if isGroupName name then some (.named (String.ofList name), rest) else none
  | _ => none

/-- The kind of a group after its opening parenthesis. -/
def readGroupHead? : List Char → Option (GroupKind × List Char)
  | '?' :: 'P' :: '<' :: rest => readGroupName? rest
  | '?' :: '<' :: rest => readGroupName? rest
  | '?' :: ':' :: rest => some (.plain, rest)
  | '?' :: _ => none
  | cs => some (.numbered, cs)

/-- A row of atoms with one more. -/
def followedBy (read : Option Regex) (next : Regex) : Regex :=
  match read with
  | some row => .seq row next
  | none => next

mutual

/-- Alternatives and the rest, with `fuel` bounding the number of atoms. -/
def readEither? (fuel : Nat) (cs : List Char) : Option (Regex × List Char) :=
  match fuel with
  | 0 => none
  | fuel + 1 => do
    let (first, rest) ← readSeq? fuel none cs
    match rest with
    | '|' :: rest =>
      let (second, rest) ← readEither? fuel rest
      some (.either first second, rest)
    | _ => some (first, rest)

/-- A row of atoms after those already read, and the rest. -/
def readSeq? (fuel : Nat) (read : Option Regex) (cs : List Char) : Option (Regex × List Char) :=
  match fuel with
  | 0 => none
  | fuel + 1 =>
    match cs with
    | [] => some (read.getD .empty, [])
    | '|' :: _ => some (read.getD .empty, cs)
    | ')' :: _ => some (read.getD .empty, cs)
    | _ => do
      let (next, rest) ← readAtom? fuel cs
      let (next, rest) ← readRepeats? (rest.length + 1) next rest
      readSeq? fuel (followedBy read next) rest

/-- An atom and the rest. -/
def readAtom? (fuel : Nat) (cs : List Char) : Option (Regex × List Char) :=
  match fuel with
  | 0 => none
  | fuel + 1 =>
    if repeats cs then none else
    match cs with
    | [] => none
    | '^' :: rest => some (.start, rest)
    | '$' :: rest => some (.finish, rest)
    | '.' :: rest => some (.any, rest)
    | '[' :: rest => (CharSet.read? rest).map fun (set, rest) => (.char set, rest)
    | '\\' :: 'A' :: rest => some (.start, rest)
    | '\\' :: 'z' :: rest => some (.finish, rest)
    | '\\' :: c :: rest => (CharSet.escape? c).map fun (set, _) => (.char set, rest)
    | '\\' :: [] => none
    | '(' :: rest => do
      let (kind, rest) ← readGroupHead? rest
      let (body, rest) ← readEither? fuel rest
      match rest with
      | ')' :: rest => some (.group kind body, rest)
      | _ => none
    | c :: rest => some (.char (.single c), rest)

end

/-- The expression that a text stands for, if it stands for one. No two groups share a name. -/
def read? (s : String) : Option Regex :=
  match readEither? (4 * s.length + 4) s.toList with
  | some (r, []) => if r.groupNames.Nodup then some r else none
  | _ => none

end RelationGateway.Regex
