import RelationGateway.Route.Regex

/-!
# Plans of expressions

A plan says what has to be matched without the spellings that make no difference to a matching
program: characters side by side are one word, rows stand in no rows and alternatives in no
alternatives, alternatives that are single characters or classes are one class, and what
alternatives begin with in common stands before them.

* `Plan.join`, `Plan.repeated`, `Plan.alternatives` — build plans of this form;
* `Plan.facts` — what every match of a plan has in common;
* `Regex.plan` — the plan of an expression.
-/

namespace RelationGateway

/-- What a program has to match. -/
inductive Plan where
  /-- The empty text. -/
  | nothing
  /-- Some characters, one after the other. -/
  | word (chars : List Char)
  /-- A character of some ranges, or none at all if there is no range. -/
  | oneOf (ranges : List Text.Range)
  /-- The start of the text. -/
  | start
  /-- The end of the text. -/
  | finish
  /-- A plan, at least and at most so many times. -/
  | loop (body : Plan) (least : Nat) (most : Option Nat) (eager : Bool)
  /-- A plan whose match is kept. -/
  | kept (body : Plan)
  /-- Plans one after the other. -/
  | row (parts : List Plan)
  /-- One plan or another. -/
  | choice (branches : List Plan)

namespace Plan

/-- What every match of a plan has in common. -/
structure Facts where
  /-- There is no match. -/
  hopeless : Bool := false
  /-- A match takes at least one character. -/
  consuming : Bool := false
  /-- A match takes no character. -/
  idle : Bool := false
  /-- A match begins at the start of the text. -/
  opening : Bool := false
  /-- A match ends at the end of the text. -/
  closing : Bool := false

/-- The facts up to the first one that may take a character. -/
def Facts.leading (facts : List Facts) : List Facts :=
  facts.takeWhile (·.idle) ++ (facts.dropWhile (·.idle)).take 1

/-- The facts about a row. -/
def Facts.ofRow (facts : List Facts) : Facts :=
  { hopeless := facts.any (·.hopeless)
    consuming := facts.any (·.consuming) && !facts.any (·.hopeless)
    idle := facts.all (·.idle)
    opening := (leading facts).any (·.opening)
    closing := (leading facts.reverse).any (·.closing) }

/-- The facts about a choice. -/
def Facts.ofChoice (facts : List Facts) : Facts :=
  { hopeless := facts.any (·.hopeless)
    consuming := facts.all (·.consuming)
    idle := facts.all (·.idle)
    opening := facts.all (·.opening)
    closing := facts.all (·.closing) }

mutual

/-- The facts about a plan. A choice with a hopeless branch counts as hopeless. -/
def facts : Plan → Facts
  | .nothing => { idle := true }
  | .word _ => { consuming := true }
  | .oneOf ranges => { hopeless := ranges.isEmpty, consuming := !ranges.isEmpty }
  | .start => { idle := true, opening := true }
  | .finish => { idle := true, closing := true }
  | .loop body least most _ =>
    let once := facts body
    { hopeless := once.hopeless
      consuming := 0 < least && once.consuming
      idle := once.idle && most.isSome
      opening := 0 < least && once.opening
      closing := 0 < least && once.closing }
  | .kept body => facts body
  | .row parts => .ofRow (factsOfAll parts)
  | .choice branches => .ofChoice (factsOfAll branches)

/-- The facts about several plans. -/
def factsOfAll : List Plan → List Facts
  | [] => []
  | p :: rest => facts p :: factsOfAll rest

end

mutual

/-- The plans are the same. What is kept differs from everything, for it is kept by itself. -/
def same : Plan → Plan → Bool
  | .nothing, .nothing => true
  | .word u, .word v => u == v
  | .oneOf r, .oneOf s => r == s
  | .start, .start => true
  | .finish, .finish => true
  | .loop p l m e, .loop q l' m' e' => l == l' && m == m' && e == e' && same p q
  | .row ps, .row qs => allSame ps qs
  | .choice ps, .choice qs => allSame ps qs
  | _, _ => false

/-- The plans are the same one by one. -/
def allSame : List Plan → List Plan → Bool
  | [], [] => true
  | p :: ps, q :: qs => same p q && allSame ps qs
  | _, _ => false

end

/-- The plan of a character of some canonical ranges. A single one is a word. -/
def ofRanges (ranges : List Text.Range) : Plan :=
  match ranges with
  | [(low, high)] => if low = high then .word [Char.ofNat low] else .oneOf ranges
  | _ => .oneOf ranges

/-- The parts of a plan seen as a row. -/
def parts : Plan → List Plan
  | .nothing => []
  | .row parts => parts
  | p => [p]

/-- The plan of a row of parts. -/
def ofParts : List Plan → Plan
  | [] => .nothing
  | [p] => p
  | parts => .row parts

/-- Two rows of parts as one; words that meet become one word. -/
def meet : List Plan → List Plan → List Plan
  | [.word u], .word v :: rest => .word (u ++ v) :: rest
  | [], ys => ys
  | x :: xs, ys => x :: meet xs ys

/-- The plan of one plan and then another. -/
def join (p q : Plan) : Plan := ofParts (meet p.parts q.parts)

/-- The plan of a repetition. What takes no character need not be matched twice. -/
def repeated (body : Plan) (least : Nat) (most : Option Nat) (eager : Bool) : Plan :=
  let (least, most) :=
    if body.facts.idle then (min least 1, some (min (most.getD 1) 1)) else (least, most)
  if most = some 0 then .nothing
  else if least = 1 ∧ most = some 1 then body
  else .loop body least most eager

/-- The branches of a plan seen as a choice. -/
def branches : Plan → List Plan
  | .choice branches => branches
  | p => [p]

/-- The code point of a word of one character, as a range. -/
def singleRange? : Plan → Option Text.Range
  | .word [c] => some (c.toNat, c.toNat)
  | _ => none

/-- The ranges of a class. -/
def ranges? : Plan → Option (List Text.Range)
  | .oneOf ranges => some ranges
  | _ => none

/-- The plan of one plan or another. Single characters are a class, and so are several
classes. -/
def choose (plans : List Plan) : Plan :=
  match plans.flatMap branches with
  | [p] => p
  | plans =>
    match plans.mapM singleRange?, plans.mapM ranges? with
    | some ranges, _ => ofRanges (Text.canonical ranges)
    | none, some ranges => ofRanges (Text.canonical ranges.flatten)
    | none, none => .choice plans

/-- What two rows of parts begin with in common. -/
def commonParts : List Plan → List Plan → List Plan
  | p :: ps, q :: qs => if same p q then p :: commonParts ps qs else []
  | _, _ => []

/-- The parts of a row of several. -/
def row? : Plan → Option (List Plan)
  | .row parts => some parts
  | _ => none

/-- The plan of alternatives. What rows begin with in common is matched before the choice. -/
def alternatives (plans : List Plan) : Plan :=
  match (plans.flatMap branches).mapM row? with
  | some (first :: second :: rest) =>
    let rows := first :: second :: rest
    let common := rows.foldl commonParts first
    (ofParts common).join (choose (rows.map fun parts => ofParts (parts.drop common.length)))
  | _ => choose plans

end Plan

namespace Regex

/-- The plans of the alternatives of an expression. -/
def planBranches : Regex → List Plan
  | .empty => [.nothing]
  | .char set => [.ofRanges set.ranges]
  | .any => [.ofRanges (Text.complement [('\n'.toNat, '\n'.toNat)])]
  | .start => [.start]
  | .finish => [.finish]
  | .seq first second =>
    [(Plan.alternatives first.planBranches).join (.alternatives second.planBranches)]
  | .either first second => first.planBranches ++ second.planBranches
  | .repeated body least most eager =>
    [(Plan.alternatives body.planBranches).repeated least most eager]
  | .group .plain body => [.alternatives body.planBranches]
  | .group _ body => [.kept (.alternatives body.planBranches)]

/-- The plan of an expression. -/
def plan (r : Regex) : Plan := .alternatives r.planBranches

end Regex

end RelationGateway
