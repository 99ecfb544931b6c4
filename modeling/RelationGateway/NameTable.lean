import RelationGateway.Text.Case
import Std.Data.ExtTreeMap

/-!
# Tables of named values

A table holds pairs of a name and a value in the order in which the names first came, no name
twice. Names are compared as they are or without regard to ASCII case, which is part of the
table's type. An index from names to places stands beside the pairs; that it agrees with them
is a field of the type.

* `get?`, `contains`, `place?` — looking up;
* `insert` — sets a value, in place if the name is known;
* `insertIfAbsent` — keeps a value that is already there;
* `erase` — removes a name and closes the gap.
-/

namespace RelationGateway

/-- How names are compared. -/
inductive NameRule where
  /-- Names are equal when their texts are. -/
  | exact
  /-- Names are equal when their texts are, the case of ASCII letters aside. -/
  | ignoringCase
deriving DecidableEq, Repr

/-- The form of a name that decides which names are equal to it. -/
def NameRule.key : NameRule → String → String
  | .exact, name => name
  | .ignoringCase, name => Text.lower name

/-- Pairs of a name and a value, no name twice under the rule. -/
structure NameTable (rule : NameRule) where
  /-- The pairs in order. -/
  entries : Array (String × String) := #[]
  /-- The place of each name. -/
  places : Std.ExtTreeMap String Nat := ∅
  /-- A key is indexed at a place exactly when the pair there has that key. -/
  indexed : ∀ key i, places[key]? = some i ↔ entries[i]?.map (rule.key ·.1) = some key := by
    simp

namespace NameTable

variable {rule : NameRule}

/-- The table without pairs. -/
def empty : NameTable rule := {}

instance : Inhabited (NameTable rule) := ⟨empty⟩

instance : EmptyCollection (NameTable rule) := ⟨empty⟩

/-- The pairs in order. -/
def toList (t : NameTable rule) : List (String × String) := t.entries.toList

/-- The number of pairs. -/
def size (t : NameTable rule) : Nat := t.entries.size

/-- The table has no pairs. -/
def isEmpty (t : NameTable rule) : Bool := t.entries.isEmpty

/-- The place of a name, if it has one. -/
def place? (t : NameTable rule) (name : String) : Option Nat := t.places[rule.key name]?

/-- The value of a name, if it has one. -/
def get? (t : NameTable rule) (name : String) : Option String :=
  (t.place? name).bind fun i => t.entries[i]?.map (·.2)

/-- The name has a value. -/
def contains (t : NameTable rule) (name : String) : Bool := (t.place? name).isSome

/-- A name without a place differs from every name of the table. -/
theorem key_ne_of_place?_eq_none {t : NameTable rule} {name : String}
    (h : t.place? name = none) (i : Nat) :
    t.entries[i]?.map (rule.key ·.1) ≠ some (rule.key name) := by
  intro hi
  have := (t.indexed (rule.key name) i).mpr hi
  simp_all [place?]

/-- Adds a pair whose name has no place yet. -/
def push (t : NameTable rule) (name value : String) (absent : t.place? name = none) :
    NameTable rule where
  entries := t.entries.push (name, value)
  places := t.places.insert (rule.key name) t.entries.size
  indexed := by
    intro key i
    have new := key_ne_of_place?_eq_none absent
    have old := t.indexed key i
    rw [Std.ExtTreeMap.getElem?_insert, Array.getElem?_push]
    by_cases hk : rule.key name = key
    · subst hk
      by_cases hi : i = t.entries.size
      · simp [hi]
      · have := new i
        simp only [Std.compare_self, if_true, hi, if_false]
        constructor
        · intro h; exact absurd (Option.some.inj h).symm hi
        · intro h; exact absurd h this
    · have ne : compare (rule.key name) key ≠ .eq := by simpa using hk
      by_cases hi : i = t.entries.size
      · subst hi
        simp [ne, hk, old]
      · simp [ne, hi, old]

/-- Sets the value at a place. -/
def setValue (t : NameTable rule) (i : Nat) (value : String) : NameTable rule where
  entries := t.entries.modify i fun entry => (entry.1, value)
  places := t.places
  indexed := by
    intro key j
    rw [t.indexed key j, Array.getElem?_modify]
    by_cases h : i = j <;> simp [h, Function.comp_def]

/-- Gives a name a value: in its place if it has one, else in a new pair at the end. -/
def insert (t : NameTable rule) (name value : String) : NameTable rule :=
  match h : t.place? name with
  | some i => t.setValue i value
  | none => t.push name value h

/-- Gives a name a value unless it has one. -/
def insertIfAbsent (t : NameTable rule) (name value : String) : NameTable rule :=
  match h : t.place? name with
  | some _ => t
  | none => t.push name value h

/-- Removes the pair at a place that holds the given key. -/
def eraseAt (t : NameTable rule) (key : String) (i : Nat) (found : t.places[key]? = some i) :
    NameTable rule where
  entries := t.entries.eraseIdxIfInBounds i
  places := (t.places.erase key).map fun _ place => if i < place then place - 1 else place
  indexed := by
    intro other j
    have here := (t.indexed key i).mp found
    have lt : i < t.entries.size := by
      by_cases h : i < t.entries.size
      · exact h
      · simp [Array.getElem?_eq_none (Nat.le_of_not_lt h)] at here
    have at' := t.indexed other
    have unique : ∀ k, t.places[key]? = some k → k = i := by
      intro k hk; exact Option.some.inj (hk.symm.trans found)
    rw [Std.ExtTreeMap.getElem?_map, Std.ExtTreeMap.getElem?_erase]
    simp only [Array.eraseIdxIfInBounds, lt, dif_pos, Array.getElem?_eraseIdx]
    by_cases hk : key = other
    · subst hk
      have no : ∀ k, k ≠ i → t.entries[k]?.map (rule.key ·.1) ≠ some key := by
        intro k hne hk; exact hne (unique k ((at' k).mpr hk))
      simp only [Std.compare_self, if_true, Option.map_none]
      constructor
      · intro h; cases h
      · intro h
        by_cases hj : j < i
        · simp only [hj, if_true] at h; exact absurd h (no j (by omega))
        · simp only [hj, if_false] at h; exact absurd h (no (j + 1) (by omega))
    · have ne : compare key other ≠ .eq := by simpa using hk
      have notHere : t.places[other]? ≠ some i := by
        intro h
        have := (at' i).mp h
        rw [here] at this
        exact hk (Option.some.inj this)
      simp only [ne, if_false]
      by_cases hj : j < i
      · rw [if_pos hj, ← at' j]
        cases hp : t.places[other]? with
        | none => simp
        | some p =>
          have : p ≠ i := fun h => notHere (h ▸ hp)
          simp only [Option.map_some, Option.some.injEq]
          split <;> omega
      · rw [if_neg hj, ← at' (j + 1)]
        cases hp : t.places[other]? with
        | none => simp
        | some p =>
          have : p ≠ i := fun h => notHere (h ▸ hp)
          simp only [Option.map_some, Option.some.injEq]
          split <;> omega

/-- Removes a name and its value. -/
def erase (t : NameTable rule) (name : String) : NameTable rule :=
  match h : t.place? name with
  | some i => t.eraseAt (rule.key name) i h
  | none => t

/-- The table of some pairs, of which the first with a name is kept. -/
def ofList (pairs : List (String × String)) : NameTable rule :=
  pairs.foldl (fun t pair => t.insertIfAbsent pair.1 pair.2) empty

end NameTable

end RelationGateway
