import RelationGateway.Route.CharSet

/-!
# Reading sets of characters

A class stands between brackets: characters, escapes, ranges, named sets of ASCII and other
classes side by side, and `&&`, `--` and `~~` between two groups of them. At its beginning,
dashes stand for themselves, and so does a closing bracket that comes first.
-/

namespace RelationGateway.CharSet

/-- A set that stands for itself as part of a class, and the character that it is as the end of
a range. -/
abbrev Atom := CharSet × Option Char

/-- The character itself. -/
def literal (c : Char) : Atom := (.single c, some c)

/-- What a character after a backslash stands for. -/
def escape? (c : Char) : Option Atom :=
  match c with
  | 'd' => some (.named .digit false, none)
  | 'D' => some (.named .digit true, none)
  | 'w' => some (.named .word false, none)
  | 'W' => some (.named .word true, none)
  | 's' => some (.named .blank false, none)
  | 'S' => some (.named .blank true, none)
  | 'n' => some (literal '\n')
  | 't' => some (literal '\t')
  | 'r' => some (literal '\r')
  | 'a' => some (literal '\x07')
  | 'v' => some (literal '\x0b')
  | 'f' => some (literal '\x0c')
  | _ =>
    if c.toNat < 0x80 && !c.isAlphanum && c != '<' && c != '>' then some (literal c) else none

/-- A character or an escape, and the rest. -/
def readAtom? : List Char → Option (Atom × List Char)
  | '\\' :: c :: rest => (escape? c).map fun item => (item, rest)
  | '\\' :: [] => none
  | c :: rest => some (literal c, rest)
  | [] => none

/-- A character, an escape or a range, and the rest. A dash before a closing bracket or another
dash makes no range. -/
def readRange? (cs : List Char) : Option (CharSet × List Char) := do
  let ((set, low), rest) ← readAtom? cs
  match rest with
  | '-' :: ']' :: _ => some (set, rest)
  | '-' :: '-' :: _ => some (set, rest)
  | '-' :: more =>
    let ((_, high), rest) ← readAtom? more
    match low, high with
    | some low, some high => if low ≤ high then some (.range low high, rest) else none
    | _, _ => none
  | _ => some (set, rest)

/-- Whether a set is negated by a sign in front of it, and the rest. -/
def readSign : List Char → Bool × List Char
  | '^' :: rest => (true, rest)
  | cs => (false, cs)

/-- A named set between colons after its opening bracket, and the rest after its closing one. -/
def readNamed? : List Char → Option (CharSet × List Char)
  | ':' :: cs =>
    let (negated, cs) := readSign cs
    match cs.dropWhile (· != ':') with
    | ':' :: ']' :: rest =>
      (NamedSet.ofName? (String.ofList (cs.takeWhile (· != ':')))).map fun set =>
        (.named set negated, rest)
    | _ => none
  | _ => none

/-- Sets side by side with one more. -/
def beside (read next : CharSet) : CharSet :=
  match read with
  | .empty => next
  | read => .union read next

/-- The sets read since the last operation, combined with what stands before it. -/
def resolve (before : Option (SetOperation × CharSet)) (read : CharSet) : CharSet :=
  match before with
  | some (operation, first) => .combined operation first read
  | none => read

/-- An operation between two groups of sets, and the rest. -/
def readOperation? : List Char → Option (SetOperation × List Char)
  | '&' :: '&' :: rest => some (.both, rest)
  | '-' :: '-' :: rest => some (.without, rest)
  | '~' :: '~' :: rest => some (.onlyOne, rest)
  | _ => none

/-- The sign of a class and what stands for itself at its beginning, and the rest. -/
def readOpening (cs : List Char) : (Bool × CharSet) × List Char :=
  let (negated, cs) := readSign cs
  match cs with
  | ']' :: rest => ((negated, .single ']'), rest)
  | _ =>
    let dashes := cs.takeWhile (· == '-')
    let set := dashes.foldl (fun read c => beside read (.single c)) .empty
    ((negated, set), cs.dropWhile (· == '-'))

mutual

/-- A class after its opening bracket, and the rest, with `fuel` bounding the number of sets. -/
def readClass? (fuel : Nat) (cs : List Char) : Option (CharSet × List Char) :=
  match fuel with
  | 0 => none
  | fuel + 1 =>
    let ((negated, opening), rest) := readOpening cs
    (readParts? fuel none opening rest).map fun (set, rest) => (.bracketed negated set, rest)

/-- The parts of a class up to its closing bracket, after what has been read, and the rest. -/
def readParts? (fuel : Nat) (before : Option (SetOperation × CharSet)) (read : CharSet)
    (cs : List Char) : Option (CharSet × List Char) :=
  match fuel with
  | 0 => none
  | fuel + 1 =>
    match readOperation? cs with
    | some (operation, rest) => readParts? fuel (some (operation, resolve before read)) .empty rest
    | none =>
      match cs with
      | ']' :: rest => some (resolve before read, rest)
      | '[' :: rest => do
        let (set, rest) ←
          match readNamed? rest with
          | some found => some found
          | none => readClass? fuel rest
        readParts? fuel before (beside read set) rest
      | _ => do
        let (set, rest) ← readRange? cs
        readParts? fuel before (beside read set) rest

end

/-- A class after its opening bracket, and the rest. -/
def read? (cs : List Char) : Option (CharSet × List Char) := readClass? (2 * cs.length + 2) cs

end RelationGateway.CharSet
