import RelationGateway.Proofs.NameTable

/-!
# Name tables behave like lists of pairs

A table answers as a list of pairs does that is searched from its front and has no index: after
any changes it holds the same pairs in the same order, and each change tells the same.

* `Change`, `Reply`: the changes of a table and what they tell;
* `Change.onTable`, `Change.onList`: a change of a table, and of a list of pairs;
* `onTable_toList`: one change of a table is a change of its pairs;
* `Agrees`: a table answers as a list of pairs does, and its index fits the list;
* `run_agrees`: the same for any changes, one after the other.
-/

namespace RelationGateway.NameTable

/-- A change of named values. -/
inductive Change where
  /-- Gives a name a value. -/
  | insert (name value : String)
  /-- Gives a name a value unless it has one. -/
  | insertIfAbsent (name value : String)
  /-- Removes a name and its value. -/
  | erase (name : String)
deriving DecidableEq, Repr

/-- What a change tells. -/
inductive Reply where
  /-- The value was set. -/
  | done
  /-- Whether the name was new. -/
  | added (isNew : Bool)
  /-- The value that was removed, if there was one. -/
  | removed (value : Option String)
deriving DecidableEq, Repr

variable {rule : NameRule} {name value : String} {pairs : List (String × String)}

/-! ## Lists of pairs -/

/-- The value of the first pair with the key of a name. -/
def lookUp (rule : NameRule) (name : String) (pairs : List (String × String)) : Option String :=
  (pairs.find? fun pair => rule.key pair.1 == rule.key name).map (·.2)

/-- Sets the value of the first pair with the key of a name, which keeps its place and its
spelling. Without such a pair there is a new one at the end. -/
def overwrite (rule : NameRule) (name value : String) :
    List (String × String) → List (String × String)
  | [] => [(name, value)]
  | pair :: rest =>
    if rule.key pair.1 == rule.key name then (pair.1, value) :: rest
    else pair :: overwrite rule name value rest

/-- A change of a list of pairs. -/
def Change.onList (rule : NameRule) :
    Change → List (String × String) → Reply × List (String × String)
  | insert name value, pairs => (.done, overwrite rule name value pairs)
  | insertIfAbsent name value, pairs =>
    match lookUp rule name pairs with
    | some _ => (.added false, pairs)
    | none => (.added true, pairs ++ [(name, value)])
  | erase name, pairs =>
    (.removed (lookUp rule name pairs),
      pairs.eraseP fun pair => rule.key pair.1 == rule.key name)

/-- Without a pair of the key, the new pair comes last. -/
theorem overwrite_of_forall_ne (h : ∀ pair ∈ pairs, rule.key pair.1 ≠ rule.key name) :
    overwrite rule name value pairs = pairs ++ [(name, value)] := by
  induction pairs with
  | nil => rfl
  | cons pair rest ih =>
    obtain ⟨hpair, hrest⟩ := List.forall_mem_cons.mp h
    rw [overwrite, if_neg (by simpa using hpair), ih hrest, List.cons_append]

/-- If no key comes twice, the key of the first pair does not come later. -/
theorem forall_ne_of_nodup_cons {pair : String × String}
    (hnodup : ((pair :: pairs).map (rule.key ·.1)).Nodup)
    (hkey : rule.key pair.1 = rule.key name) :
    ∀ later ∈ pairs, rule.key later.1 ≠ rule.key name := by
  intro later hmem hlater
  exact (List.nodup_cons.mp hnodup).1 (List.mem_map.mpr ⟨later, hmem, hlater.trans hkey.symm⟩)

/-- If no key comes twice, only the pair with the key of the name gets the value. -/
theorem overwrite_of_exists (hnodup : (pairs.map (rule.key ·.1)).Nodup)
    (hmem : ∃ pair ∈ pairs, rule.key pair.1 = rule.key name) :
    overwrite rule name value pairs =
      pairs.map fun pair => if rule.key pair.1 == rule.key name then (pair.1, value) else pair := by
  induction pairs with
  | nil => simp at hmem
  | cons pair rest ih =>
    rw [overwrite, List.map_cons]
    by_cases hkey : rule.key pair.1 = rule.key name
    · -- The pair is found, and the later ones stay as they are because none has its key.
      have hlater : ∀ later ∈ rest,
          (if rule.key later.1 == rule.key name then (later.1, value) else later) = id later :=
        fun later hmem => if_neg (by simpa using forall_ne_of_nodup_cons hnodup hkey later hmem)
      rw [if_pos (by simpa using hkey), if_pos (by simpa using hkey),
        List.map_congr_left hlater, List.map_id]
    · have hrest : ∃ later ∈ rest, rule.key later.1 = rule.key name := by
        simpa [hkey] using hmem
      rw [if_neg (by simpa using hkey), if_neg (by simpa using hkey),
        ih (List.nodup_cons.mp hnodup).2 hrest]

/-- If no key comes twice, removing the first pair with a key removes all of them. -/
theorem eraseP_eq_filter (hnodup : (pairs.map (rule.key ·.1)).Nodup) :
    (pairs.eraseP fun pair => rule.key pair.1 == rule.key name) =
      pairs.filter fun pair => rule.key pair.1 != rule.key name := by
  induction pairs with
  | nil => rfl
  | cons pair rest ih =>
    by_cases hkey : rule.key pair.1 = rule.key name
    · have hlater : (rest.filter fun later => rule.key later.1 != rule.key name) = rest := by
        rw [List.filter_eq_self]
        simpa using forall_ne_of_nodup_cons hnodup hkey
      rw [List.eraseP_cons_of_pos (by simpa using hkey),
        List.filter_cons_of_neg (by simpa using hkey), hlater]
    · rw [List.eraseP_cons_of_neg (by simpa using hkey),
        List.filter_cons_of_pos (by simpa using hkey), ih (List.nodup_cons.mp hnodup).2]

/-! ## Changes, one by one -/

/-- A change of a table. -/
def Change.onTable : Change → NameTable rule → Reply × NameTable rule
  | insert name value, t => (.done, t.insert name value)
  | insertIfAbsent name value, t => (.added (!t.contains name), t.insertIfAbsent name value)
  | erase name, t => (.removed (t.get? name), t.erase name)

/-- A name has the value that the list of pairs gives it. -/
theorem get?_eq_lookUp (t : NameTable rule) (name : String) :
    t.get? name = lookUp rule name t.toList := get?_eq

/-- A name has a value exactly when the list of pairs gives it one. -/
theorem contains_eq_isSome_lookUp (t : NameTable rule) (name : String) :
    t.contains name = (lookUp rule name t.toList).isSome := by
  rw [contains_eq_isSome_get?, get?_eq_lookUp]

/-- A change of a table tells what the change of its pairs tells, and leaves the pairs that the
change of its pairs leaves. -/
theorem onTable_toList (change : Change) (t : NameTable rule) :
    (change.onTable t).map id toList = change.onList rule t.toList := by
  cases change with
  | insert name value =>
    refine Prod.ext rfl ?_
    change (t.insert name value).toList = overwrite rule name value t.toList
    rw [toList_insert]
    split
    next hcontains =>
      rw [contains_eq, List.any_eq_true] at hcontains
      exact (overwrite_of_exists (nodup_keys t) (by simpa using hcontains)).symm
    next hcontains =>
      rw [contains_eq, Bool.not_eq_true, List.any_eq_false] at hcontains
      exact (overwrite_of_forall_ne (by simpa using hcontains)).symm
  | insertIfAbsent name value =>
    change (Reply.added (!t.contains name), (t.insertIfAbsent name value).toList) = _
    rw [Change.onList, toList_insertIfAbsent, contains_eq_isSome_lookUp]
    cases lookUp rule name t.toList <;> rfl
  | erase name =>
    change (Reply.removed (t.get? name), (t.erase name).toList) = _
    rw [Change.onList, toList_erase, get?_eq_lookUp, eraseP_eq_filter (nodup_keys t)]

/-! ## Changes, one after the other -/

/-- Changes one after the other, with what each of them tells. -/
def run {σ : Type} (step : Change → σ → Reply × σ) : List Change → σ → List Reply × σ
  | [], state => ([], state)
  | change :: rest, state =>
    let changed := step change state
    let last := run step rest changed.2
    (changed.1 :: last.1, last.2)

/-- Changes of a table tell what the changes of its pairs tell, and leave the pairs that those
leave. -/
theorem run_onTable_toList (changes : List Change) (t : NameTable rule) :
    (run Change.onTable changes t).map id toList =
      run (Change.onList rule) changes t.toList := by
  -- Each change leaves another table, so the induction is over any table.
  induction changes generalizing t with
  | nil => rfl
  | cons change rest ih =>
    simp only [run, ← onTable_toList, ← ih, Prod.map]
    rfl

/-! ## Agreement with a list of pairs -/

/-- A table answers as a list of pairs does, and its index fits the list. -/
structure Agrees (t : NameTable rule) (pairs : List (String × String)) : Prop where
  /-- The pairs are those of the list, in the same order. -/
  toList : t.toList = pairs
  /-- A name has the value that is found from the front of the list. -/
  get? : ∀ name, t.get? name = lookUp rule name pairs
  /-- A name has a value exactly when one is found. -/
  contains : ∀ name, t.contains name = (lookUp rule name pairs).isSome
  /-- There are as many pairs as in the list. -/
  size : t.size = pairs.length
  /-- There are none exactly when the list is empty. -/
  isEmpty : t.isEmpty = pairs.isEmpty
  /-- No key comes twice. -/
  nodup : (pairs.map (rule.key ·.1)).Nodup
  /-- The index holds the key of each pair with its place in the list, and nothing else. -/
  indexed : ∀ (key : String) (i : Nat),
    t.places[key]? = some i ↔ pairs[i]?.map (rule.key ·.1) = some key
  /-- No place of the index is outside the pairs. -/
  inBounds : ∀ (key : String) (i : Nat), t.places[key]? = some i → i < t.entries.size

/-- A table agrees with the list of its pairs. -/
theorem agrees_toList (t : NameTable rule) : Agrees t t.toList where
  toList := rfl
  get? := get?_eq_lookUp t
  contains := contains_eq_isSome_lookUp t
  size := Array.length_toList.symm
  isEmpty := Array.isEmpty_toList.symm
  nodup := nodup_keys t
  indexed key i := by
    rw [toList, Array.getElem?_toList]
    exact t.indexed key i
  inBounds key i hplace := by
    obtain ⟨pair, hpair, -⟩ := Option.map_eq_some_iff.mp ((t.indexed key i).mp hplace)
    exact (Array.getElem?_eq_some_iff.mp hpair).1

/-- After any changes, a table that is made of some pairs, which may be none, answers as the list
that is made of the first pair of each key and changed in the same way. On the way each change
tells the same of both. A table is equal to another one with names compared in the same way
exactly when their pairs are equal. -/
theorem run_agrees (rule : NameRule) (pairs : List (String × String)) (changes : List Change) :
    let table := run Change.onTable changes (ofList pairs : NameTable rule)
    let list := run (Change.onList rule) changes (firsts rule pairs)
    table.1 = list.1 ∧ Agrees table.2 list.2 ∧
      ∀ other : NameTable rule, table.2 = other ↔ table.2.toList = other.toList := by
  intro table list
  have hrun : table.map id toList = list := by
    rw [run_onTable_toList, toList_ofList]
  have hreplies : table.1 = list.1 := congrArg Prod.fst hrun
  have hpairs : table.2.toList = list.2 := congrArg Prod.snd hrun
  exact ⟨hreplies, hpairs ▸ agrees_toList table.2, fun _ => ⟨congrArg toList, ext_toList⟩⟩

/-- The pairs behind a removed one move up. -/
example :
    (run Change.onTable [.insert "a" "1", .insert "b" "2", .erase "a", .insertIfAbsent "b" "3",
      .insert "b" "4"] (empty : NameTable .exact)).map id toList =
      ([.done, .done, .removed (some "1"), .added false, .done], [("b", "4")]) := by
  rw [run_onTable_toList]
  rfl

end RelationGateway.NameTable
