import RelationGateway.Route.Regex

/-!
# Nesting of expressions

How deeply the parts of an expression stand inside one another. A row of parts is one level
above all of them, however many there are, and so are alternatives; every repetition and every
group is a level of its own, and the sets of characters have levels too.
-/

namespace RelationGateway

namespace Regex

/-- The number of levels of an expression inside a row, inside alternatives, or elsewhere. The
parts of a row that stand inside that row share its level, and so do alternatives. -/
def nestingWithin (inRow inChoice : Bool) : Regex → Nat
  | .seq first second =>
    max (nestingWithin true false first) (nestingWithin false false second) + (!inRow).toNat
  | .either first second =>
    max (nestingWithin false false first) (nestingWithin false true second) + (!inChoice).toNat
  | .repeated body _ _ _ => nestingWithin false false body + 1
  | .group _ body => nestingWithin false false body + 1
  | .char set => set.nesting
  | _ => 0

/-- The number of levels of an expression. -/
def nesting (r : Regex) : Nat := r.nestingWithin false false

end Regex

end RelationGateway
