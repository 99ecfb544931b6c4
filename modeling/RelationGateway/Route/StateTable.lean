import Std.Data.HashMap

/-!
# Tables of states

A state of a program that does what another one does need not be added. A table tells the
states that were added before by what they do, but has only so many slots: what a state does
gives the slot, and a later state takes it from an earlier one, which is then forgotten.

* `StateTable.slot` — the slot of a description;
* `StateTable.find?`, `StateTable.insert` — look up and note a state.
-/

namespace RelationGateway

/-- Some states, each noted in a slot with the numbers that say what it does. -/
structure StateTable where
  /-- The number of slots. -/
  capacity : Nat
  /-- What the slots hold: the description of a state, and its number. -/
  slots : Std.HashMap Nat (List Nat × Nat) := ∅

namespace StateTable

/-- The slot of a description: from a starting value on, each number is joined to the value bit by
bit and the value is multiplied by a prime, in words of 64 bits (the hash FNV-1a). -/
def slot (capacity : Nat) (description : List Nat) : Nat :=
  let value := description.foldl
    (fun value n => (value ^^^ UInt64.ofNat n) * 1099511628211) (14695981039346656037 : UInt64)
  value.toNat % capacity

/-- The state with a description, if it has not been forgotten. -/
def find? (t : StateTable) (description : List Nat) : Option Nat :=
  match t.slots[slot t.capacity description]? with
  | some (noted, state) => if noted = description then some state else none
  | none => none

/-- The table with one state more. -/
def insert (t : StateTable) (description : List Nat) (state : Nat) : StateTable :=
  { t with slots := t.slots.insert (slot t.capacity description) (description, state) }

end StateTable

end RelationGateway
