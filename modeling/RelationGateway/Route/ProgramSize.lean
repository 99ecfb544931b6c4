import RelationGateway.Route.Nesting
import RelationGateway.Route.Plan
import RelationGateway.Route.Program
import RelationGateway.Text.Utf8

/-!
# Programs of expressions

An expression is matched by a program in which repetitions are written out, so that a short
expression may need a large program. It is usable only if the program, and the one that reads
the text backwards, stay within a limit.

* `Plan.program` — how large the program of a plan gets;
* `Regex.isUsable` — an expression is neither nested too deeply nor too large.
-/

namespace RelationGateway

namespace Program

/-- The program with a part whose match is kept: a state on either side notes the place. -/
def keep (part : Program → Program) (p : Program) : Program := (part (p.add 1)).add 1

/-- The program with a part at least and at most so many times. It is written out that often;
without a greatest number, a fork leads back to the last one, or to the only one. Where that may
take no character, the fork behind it is not the one before it. -/
def loop (part : Program → Program) (consuming : Bool) :
    (least : Nat) → (most : Option Nat) → Program → Program
  | 0, none, p => if consuming then (part (p.add 1 1)).fork else (part p).add 3 4
  | n + 1, none, p => ((p.repeated part (n + 1)).add 1 1).fork
  | 0, some 1, p => (part (p.add 1 2)).add 1
  | least, some most, p =>
    if least = most then p.repeated part least
    else
      let before := if least = 0 then p.add 1 else p.repeated part least
      ((before.add 1).repeated (fun p => part (p.add 1 2)) (most - least)).lead

end Program

namespace Plan

/-- The bytes of a word. -/
def wordBytes? : Plan → Option (List UInt8)
  | .word chars => some (Utf8.encode (String.ofList chars))
  | _ => none

mutual

/-- The program with a part that matches a plan, reading forwards or backwards. Matches are kept
by the program that reads forwards only. -/
def addTo (backward : Bool) : Plan → Program → Program
  | .nothing, p => p.add 1
  | .word chars, p => p.add (Utf8.encode (String.ofList chars)).length
  | .oneOf ranges, p => p.addClass backward ranges
  | .start, p => p.add 1
  | .finish, p => p.add 1
  | .loop body least most _, p =>
    p.loop (addTo backward body) body.facts.consuming least most
  | .kept body, p => if backward then addTo backward body p else p.keep (addTo backward body)
  | .row parts, p => if backward then addRowBackward parts p else addRowForward parts p
  | .choice branches, p =>
    match branches.mapM wordBytes? with
    | some words => p.addWords (if backward then words.map List.reverse else words)
    | none => addChoice backward 0 branches p

/-- The program with parts that match plans, the first one first. -/
def addRowForward : List Plan → Program → Program
  | [], p => p
  | part :: rest, p => addRowForward rest (addTo false part p)

/-- The program with parts that match plans, the last one first. -/
def addRowBackward : List Plan → Program → Program
  | [], p => p
  | part :: rest, p => addTo true part (addRowBackward rest p)

/-- The program with a choice of parts that match plans, after those already in it. Behind the
second one stand the fork before all of them and the state where they meet. -/
def addChoice (backward : Bool) (before : Nat) : List Plan → Program → Program
  | [], p => p.lead
  | branch :: rest, p =>
    let p := addTo backward branch p
    addChoice backward (before + 1) rest
      (if before = 0 then p else if before = 1 then p.add 2 2 else p.addWays 1)

end

/-- How large the program gets that matches a plan somewhere in a text. It begins by skipping any
bytes, unless every match stands at the end of the text from which it sets out, and ends in a
state of its own. Forwards, the whole match is kept too. -/
def program (backward : Bool) (plan : Plan) : Program :=
  let anchored := if backward then plan.facts.closing else plan.facts.opening
  let p : Program := if anchored then ({} : Program).add 1 else ({} : Program).add 3 2 1
  (if backward then addTo true plan p else p.keep (addTo false plan)).add 1

end Plan

namespace Regex

/-- The greatest number of levels of a usable expression. -/
def nestingLimit : Nat := 250

/-- The expression is neither nested too deeply nor too large. -/
def isUsable (r : Regex) : Bool :=
  let plan := r.plan
  r.nesting ≤ nestingLimit && !(plan.program false).isFull && !(plan.program true).isFull

end Regex

end RelationGateway
