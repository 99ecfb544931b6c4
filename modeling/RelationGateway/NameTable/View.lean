import RelationGateway.NameTable

/-!
# Name tables as lists

A name table is determined by the list of its pairs, in which no key comes twice. The lemmas
say what each operation reads off that list and does to it, so that later arguments need no
index.

* `ext_toList` — tables with the same pairs are equal;
* `nodup_keys` — no key comes twice;
* `get?_eq`, `contains_eq` — looking up finds the only pair with the key;
* `toList_insert`, `toList_insertIfAbsent`, `toList_erase` — what the operations do.
-/

namespace RelationGateway.NameTable

variable {rule : NameRule} {t : NameTable rule} {name value : String}

/-- Tables with the same pairs are equal. -/
theorem ext_toList {t u : NameTable rule} (h : t.toList = u.toList) : t = u := by
  obtain ⟨entries, places, indexed⟩ := t
  obtain ⟨entries', places', indexed'⟩ := u
  obtain rfl : entries = entries' := Array.toList_inj.mp h
  -- Both indices are determined by the pairs.
  obtain rfl : places = places' := by
    apply Std.ExtTreeMap.ext_getElem?
    intro key
    apply Option.ext
    intro i
    rw [indexed key i, indexed' key i]
  rfl

/-- A name is placed exactly where its key stands. -/
theorem place?_eq_some_iff {i : Nat} :
    t.place? name = some i ↔ t.toList[i]?.map (rule.key ·.1) = some (rule.key name) := by
  rw [toList, Array.getElem?_toList]
  exact t.indexed (rule.key name) i

/-- A name has no place exactly when no pair has its key. -/
theorem place?_eq_none_iff :
    t.place? name = none ↔ ∀ pair ∈ t.toList, rule.key pair.1 ≠ rule.key name := by
  rw [Option.eq_none_iff_forall_ne_some]
  constructor
  · intro h pair hpair hkey
    obtain ⟨i, hi⟩ := List.getElem?_of_mem hpair
    exact h i (place?_eq_some_iff.mpr (by simp [hi, hkey]))
  · intro h i hi
    obtain ⟨pair, hpair, hkey⟩ := Option.map_eq_some_iff.mp (place?_eq_some_iff.mp hi)
    exact h pair (List.mem_of_getElem? hpair) hkey

/-- The keys of a table are pairwise distinct. -/
theorem nodup_keys (t : NameTable rule) : (t.toList.map (rule.key ·.1)).Nodup := by
  rw [List.Nodup, List.pairwise_iff_getElem]
  intro i j hi hj hij heq
  rw [List.length_map] at hi hj
  rw [List.getElem_map, List.getElem_map] at heq
  -- The key at both places is indexed at both, and a key has one place.
  have ati : t.place? t.toList[i].1 = some i := place?_eq_some_iff.mpr (by simp [hi])
  have atj : t.place? t.toList[i].1 = some j := place?_eq_some_iff.mpr (by simp [hj, heq])
  exact absurd (Option.some.inj (ati.symm.trans atj)) (Nat.ne_of_lt hij)

/-- A name has a value exactly when some pair has its key. -/
theorem contains_eq :
    t.contains name = t.toList.any fun pair => rule.key pair.1 == rule.key name := by
  cases h : t.place? name with
  | none =>
    have absent := place?_eq_none_iff.mp h
    simp only [contains, h, Option.isSome_none]
    exact (List.any_eq_false.mpr (by simpa using absent)).symm
  | some i =>
    obtain ⟨pair, hpair, hkey⟩ := Option.map_eq_some_iff.mp (place?_eq_some_iff.mp h)
    simp only [contains, h, Option.isSome_some]
    exact (List.any_eq_true.mpr ⟨pair, List.mem_of_getElem? hpair, by simp [hkey]⟩).symm

/-- The value of a name is that of the first pair with its key. -/
theorem get?_eq :
    t.get? name =
      (t.toList.find? fun pair => rule.key pair.1 == rule.key name).map (·.2) := by
  cases h : t.place? name with
  | none =>
    have absent := place?_eq_none_iff.mp h
    simp only [get?, h, Option.bind_none]
    rw [List.find?_eq_none.mpr (by simpa using absent)]
    rfl
  | some i =>
    have atPlace := place?_eq_some_iff.mp h
    obtain ⟨pair, hpair, hkey⟩ := Option.map_eq_some_iff.mp atPlace
    obtain ⟨hi, rfl⟩ := List.getElem?_eq_some_iff.mp hpair
    -- The pair at the place is the first with the key because it is the only one.
    have first : t.toList.find? (fun pair => rule.key pair.1 == rule.key name) =
        some t.toList[i] := by
      rw [List.find?_eq_some_iff_getElem]
      refine ⟨by simpa using hkey, i, hi, rfl, fun j hj => ?_⟩
      have distinct := List.pairwise_iff_getElem.mp (nodup_keys t) j i
        (by rw [List.length_map]; omega) (by simpa using hi) hj
      rw [List.getElem_map, List.getElem_map, hkey] at distinct
      simpa using distinct
    rw [first]
    simp only [get?, h, Option.bind_some, ← Array.getElem?_toList]
    exact congrArg (Option.map (·.2)) hpair

/-- Adding a pair puts it at the end. -/
@[simp]
theorem toList_push (absent : t.place? name = none) :
    (t.push name value absent).toList = t.toList ++ [(name, value)] := by
  simp [push, toList]

/-- Giving a name a value unless it has one adds a pair at the end if the name is new. -/
theorem toList_insertIfAbsent :
    (t.insertIfAbsent name value).toList =
      if t.contains name then t.toList else t.toList ++ [(name, value)] := by
  unfold insertIfAbsent
  split
  next h => simp [contains, h]
  next h => simp [contains, h]

/-- Giving a name a value replaces the value in its pair, or adds a pair at the end. -/
theorem toList_insert :
    (t.insert name value).toList =
      if t.contains name then
        t.toList.map fun pair =>
          if rule.key pair.1 == rule.key name then (pair.1, value) else pair
      else t.toList ++ [(name, value)] := by
  unfold insert
  split
  next i h =>
    simp only [contains, h, Option.isSome_some, if_true]
    apply List.ext_getElem?
    intro j
    simp only [setValue, toList, Array.toList_modify, List.getElem?_modify, List.getElem?_map,
      Array.getElem?_toList]
    cases hj : t.entries[j]? with
    | none => simp
    | some pair =>
      have here : t.place? pair.1 = some j := by
        rw [place?_eq_some_iff, toList, Array.getElem?_toList, hj]
        rfl
      -- The pair at `j` has the key exactly when `j` is the place of the name.
      have same : rule.key pair.1 = rule.key name ↔ i = j := by
        constructor
        · intro hkey
          have : t.place? pair.1 = t.place? name := by rw [place?, place?, hkey]
          rw [here, h] at this
          exact (Option.some.inj this).symm
        · rintro rfl
          have := place?_eq_some_iff.mp h
          rw [toList, Array.getElem?_toList, hj] at this
          exact Option.some.inj this
      by_cases hij : i = j <;> simp [same, hij]
  next h => simp [contains, h]

/-- Removing a name removes the pair with its key. -/
theorem toList_erase :
    (t.erase name).toList =
      t.toList.filter fun pair => rule.key pair.1 != rule.key name := by
  unfold erase
  split
  next i h =>
    have atPlace := place?_eq_some_iff.mp h
    obtain ⟨pair, hpair, hkey⟩ := Option.map_eq_some_iff.mp atPlace
    obtain ⟨hi, rfl⟩ := List.getElem?_eq_some_iff.mp hpair
    have keys := List.pairwise_iff_getElem.mp (nodup_keys t)
    -- All pairs before and after the one at the place have other keys.
    have before : ∀ p ∈ t.toList.take i, rule.key p.1 ≠ rule.key name := by
      intro p hp
      obtain ⟨j, hj, rfl⟩ := List.mem_take_iff_getElem.mp hp
      have := keys j i (by rw [List.length_map]; omega) (by simpa using hi) (by omega)
      simpa [hkey] using this
    have after : ∀ p ∈ t.toList.drop (i + 1), rule.key p.1 ≠ rule.key name := by
      intro p hp
      obtain ⟨j, hj, rfl⟩ := List.mem_drop_iff_getElem.mp hp
      have := keys i (i + 1 + j) (by simpa using hi) (by rw [List.length_map]; omega) (by omega)
      rw [List.getElem_map, List.getElem_map, hkey] at this
      exact fun h => this h.symm
    have around : t.toList = t.toList.take i ++ t.toList[i] :: t.toList.drop (i + 1) := by
      rw [← List.drop_eq_getElem_cons hi, List.take_append_drop]
    have erased : (t.eraseAt (rule.key name) i h).toList =
        t.toList.take i ++ t.toList.drop (i + 1) := by
      have hsize : i < t.entries.size := by simpa [toList] using hi
      simp [eraseAt, toList, Array.eraseIdxIfInBounds, hsize, List.eraseIdx_eq_take_drop_succ]
    calc (t.eraseAt (rule.key name) i h).toList
        = t.toList.take i ++ t.toList.drop (i + 1) := erased
      _ = (t.toList.take i ++ t.toList[i] :: t.toList.drop (i + 1)).filter
            fun pair => rule.key pair.1 != rule.key name := by
          rw [List.filter_append, List.filter_cons_of_neg (by simp [hkey]),
            List.filter_eq_self.mpr (by simpa using before),
            List.filter_eq_self.mpr (by simpa using after)]
      _ = t.toList.filter fun pair => rule.key pair.1 != rule.key name := by rw [← around]
  next h =>
    exact (List.filter_eq_self.mpr (by simpa using place?_eq_none_iff.mp h)).symm

/-- The empty table has no pairs. -/
@[simp]
theorem toList_empty : (empty : NameTable rule).toList = [] := rfl

end RelationGateway.NameTable
