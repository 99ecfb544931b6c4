import RelationGateway.Route.CharSet

/-!
# Regular expressions

Expressions over texts, with anchors that hold only at the very start and the very end. Where
matches can end is computed from all places where they may begin at once; repetition is a search
that sets out from every place once.

* `Regex.ends` — the places where a match that begins at one of some places can end;
* `Regex.occursIn` — the expression matches some part of a text.
-/

namespace RelationGateway

/-- How the match of a group is kept. -/
inductive GroupKind where
  /-- Not at all: the group only holds its body together. -/
  | plain
  /-- Under a number. -/
  | numbered
  /-- Under a number and a name. -/
  | named (name : String)
deriving DecidableEq, Repr

/-- A regular expression. -/
inductive Regex where
  /-- Matches the empty text. -/
  | empty
  /-- Matches a character of a set. -/
  | char (set : CharSet)
  /-- Matches every character but the line break. -/
  | any
  /-- Holds at the start of the text. -/
  | start
  /-- Holds at the end of the text. -/
  | finish
  /-- Matches one expression and then another. -/
  | seq (first second : Regex)
  /-- Matches one expression or another. -/
  | either (first second : Regex)
  /-- Matches an expression at least and at most so many times, many times rather than few if it
  is eager. That makes no difference to whether it matches. -/
  | repeated (body : Regex) (least : Nat) (most : Option Nat) (eager : Bool)
  /-- Matches as its body does. -/
  | group (kind : GroupKind) (body : Regex)
deriving DecidableEq, Repr

namespace Regex

/-- The places without repetitions and without those seen before. -/
def unseen (seen places : List Nat) : List Nat :=
  places.foldl (fun new p => if seen.contains p || new.contains p then new else new ++ [p]) []

/-- The places after a number of steps, and those after one step more. A step that changes
nothing is the last that has to be made. -/
def march (step : List Nat → List Nat) : (steps : Nat) → List Nat → List Nat × List Nat
  | 0, places => (places, step places)
  | n + 1, places =>
    let next := step places
    if next = places then (places, places) else march step n next

/-- The places found so far and those that up to a number of steps lead to from the frontier.
Where a step from the settled places leads to has been found before. -/
def spread (step : List Nat → List Nat) (settled : List Nat) :
    (steps : Nat) → (frontier found : List Nat) → List Nat
  | 0, _, found => found
  | _ + 1, [], found => found
  | n + 1, frontier, found =>
    let new := unseen found (step frontier)
    spread step settled n (unseen settled new) (found ++ new)

/-- The places after a character that satisfies `holds`. -/
def afterChar (text : Array Char) (holds : Char → Bool) (places : List Nat) : List Nat :=
  (places.filter fun i => text[i]?.any holds).map (· + 1)

/-- The places where a match that begins at one of the given places can end. -/
def ends (text : Array Char) : Regex → List Nat → List Nat
  | .empty, places => places
  | .char set, places => afterChar text set.holds places
  | .any, places => afterChar text (· != '\n') places
  | .start, places => places.filter (· == 0)
  | .finish, places => places.filter (· == text.size)
  | .seq first second, places => ends text second (ends text first places)
  | .either first second, places =>
    let found := ends text first places
    found ++ unseen found (ends text second places)
  | .repeated body least most _, places =>
    let step := ends text body
    let further := match most with
      | some most => most - least
      | none => text.size + 1
    match least with
    | 0 => spread step [] further places places
    | least + 1 =>
      -- More steps than the text has characters stand still somewhere, and need not be made.
      let (settled, found) := march step (min least text.size) places
      spread step settled further (unseen settled found) found
  | .group _ body, places => ends text body places

/-- The expression matches some part of the text. -/
def occursIn (r : Regex) (s : String) : Bool :=
  let text := s.toList.toArray
  !(r.ends text (List.range (text.size + 1))).isEmpty

/-- The names of the groups, in order. -/
def groupNames : Regex → List String
  | .seq first second => groupNames first ++ groupNames second
  | .either first second => groupNames first ++ groupNames second
  | .repeated body _ _ _ => groupNames body
  | .group (.named name) body => name :: groupNames body
  | .group _ body => groupNames body
  | _ => []

end Regex

end RelationGateway
