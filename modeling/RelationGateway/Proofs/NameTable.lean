import Mathlib.Data.List.Forall2
import Mathlib.Data.List.Nodup
import RelationGateway.NameTable.View
import RelationGateway.Proofs.Accumulation

/-!
# What name tables hold after changes

* `map_filter_key`: the pairs with the key of a name hold its only value;
* `get?_insert_self`, `contains_insert`, `contains_insertIfAbsent`: which names have values;
* `mem_toList_insert`, `mem_toList_insertIfAbsent`: where the pairs come from;
* `get?_insert`, `get?_insertIfAbsent`, `map_fst_insert`, `toList_eq_filterMap`: a table is its names
  with their values, and what the operations do to both;
* `toList_ofList`, `map_key_ofList`, `get?_ofList`, `get?_ofList_eq_lookup`: a table of pairs keeps
  the first pair of each key.
-/

namespace RelationGateway.NameTable

variable {rule : NameRule} {t u : NameTable rule} {name other value value' : String}
  {pair : String × String}

/-- If no two items have the same image, the items with a given image are the one that is
found. -/
theorem filter_eq_toList_find? {α β : Type} [BEq β] [LawfulBEq β] {f : α → β} {xs : List α}
    (hnodup : (xs.map f).Nodup) (b : β) :
    xs.filter (fun x => f x == b) = (xs.find? fun x => f x == b).toList := by
  induction xs with
  | nil => rfl
  | cons x rest ih =>
    obtain ⟨hx, hrest⟩ := List.nodup_cons.mp hnodup
    rw [List.filter_cons, List.find?_cons]
    -- Once an item has the image, no later one has it.
    by_cases hb : f x = b
    · have hnone : rest.filter (fun x => f x == b) = [] := by
        rw [List.filter_eq_nil_iff]
        intro y hy hyb
        have hxy : f y = f x := (beq_iff_eq.mp hyb).trans hb.symm
        exact hx (hxy ▸ List.mem_map_of_mem hy)
      rw [beq_iff_eq.mpr hb, hnone]
      rfl
    · rw [beq_eq_false_iff_ne.mpr hb, ih hrest]
      rfl

/-- The pairs with the key of a name hold its value and no other. -/
theorem map_filter_key (t : NameTable rule) (name : String) :
    (t.toList.filter fun pair => rule.key pair.1 == rule.key name).map (·.2) =
      (t.get? name).toList := by
  rw [filter_eq_toList_find? (nodup_keys t), get?_eq]
  cases t.toList.find? fun pair => rule.key pair.1 == rule.key name <;> rfl

/-- A name has a value exactly when some pair has its key. -/
theorem contains_iff : t.contains name ↔ ∃ pair ∈ t.toList, rule.key pair.1 = rule.key name := by
  rw [contains_eq, List.any_eq_true]
  simp only [beq_iff_eq]

/-- A name has a value exactly when one is found. -/
theorem contains_eq_isSome_get? (t : NameTable rule) (name : String) :
    t.contains name = (t.get? name).isSome := by
  rw [Bool.eq_iff_iff, contains_iff, get?_eq, Option.isSome_map, List.find?_isSome]
  simp only [beq_iff_eq]

/-- The value that a name is given is its value. -/
theorem get?_insert_self : (t.insert name value).get? name = some value := by
  rw [get?_eq, toList_insert]
  by_cases hcontains : t.contains name
  · -- The pair found before is found with its new value, because its name is kept.
    let update (pair : String × String) : String × String :=
      if rule.key pair.1 == rule.key name then (pair.1, value) else pair
    have hname (pair : String × String) : (update pair).1 = pair.1 := by
      simp only [update]
      split <;> rfl
    have htest : (fun pair => rule.key pair.1 == rule.key name) ∘ update =
        fun pair => rule.key pair.1 == rule.key name := by
      funext pair
      simp only [Function.comp_apply, hname]
    obtain ⟨found, hfound⟩ := Option.isSome_iff_exists.mp
      ((contains_eq_isSome_get? t name).symm.trans hcontains)
    rw [get?_eq] at hfound
    obtain ⟨pair, hpair, -⟩ := Option.map_eq_some_iff.mp hfound
    have hkey : rule.key pair.1 = rule.key name := by simpa using List.find?_some hpair
    rw [if_pos hcontains, List.find?_map, htest, hpair]
    simp [hkey]
  · have hnone : t.toList.find? (fun pair => rule.key pair.1 == rule.key name) = none := by
      rw [List.find?_eq_none]
      intro pair hpair hkey
      exact hcontains (contains_iff.mpr ⟨pair, hpair, beq_iff_eq.mp hkey⟩)
    rw [if_neg hcontains, List.find?_append, hnone]
    simp

/-- Giving a name a value gives no other name one and takes none away. -/
theorem contains_insert :
    (t.insert name value).contains other =
      (t.contains other || rule.key name == rule.key other) := by
  rw [contains_eq, contains_eq, toList_insert]
  split
  next hcontains =>
    have hkeys (pair : String × String) : rule.key
        (if rule.key pair.1 == rule.key name then (pair.1, value) else pair).1 =
          rule.key pair.1 := by split <;> rfl
    rw [List.any_map]
    simp only [Function.comp_def, hkeys]
    -- If the name is the other one, it has a value already.
    by_cases hother : rule.key name = rule.key other
    · rw [← hother, ← contains_eq, hcontains]
      rfl
    · rw [beq_eq_false_iff_ne.mpr hother, Bool.or_false]
  next => simp

/-- Giving a name a value unless it has one gives no other name one. -/
theorem contains_insertIfAbsent :
    (t.insertIfAbsent name value).contains other =
      (t.contains other || rule.key name == rule.key other) := by
  rw [contains_eq, contains_eq, toList_insertIfAbsent]
  split
  next hcontains =>
    by_cases hother : rule.key name = rule.key other
    · rw [← hother, ← contains_eq, hcontains]
      rfl
    · rw [beq_eq_false_iff_ne.mpr hother, Bool.or_false]
  next => simp

/-- What is in a table after a pair was added unless the name has a value. -/
theorem mem_toList_insertIfAbsent (hpair : pair ∈ (t.insertIfAbsent name value).toList) :
    pair ∈ t.toList ∨ pair = (name, value) := by
  rw [toList_insertIfAbsent] at hpair
  split at hpair
  · exact .inl hpair
  · simpa using hpair

/-- What is in a table after a name was given a value: what was there, and the value under the
name or under one with its key. -/
theorem mem_toList_insert (hpair : pair ∈ (t.insert name value).toList) :
    pair ∈ t.toList ∨
      pair.2 = value ∧ (pair.1 = name ∨ ∃ old, (pair.1, old) ∈ t.toList) := by
  rw [toList_insert] at hpair
  split at hpair
  · obtain ⟨before, hbefore, rfl⟩ := List.mem_map.mp hpair
    split
    · exact .inr ⟨rfl, .inr ⟨before.2, hbefore⟩⟩
    · exact .inl hbefore
  · rcases List.mem_append.mp hpair with h | h
    · exact .inl h
    · rw [List.mem_singleton.mp h]
      exact .inr ⟨rfl, .inl rfl⟩

/-- After a name was given a value, it has that value, in whatever spelling, and other names have
theirs. -/
theorem get?_insert :
    (t.insert name value).get? other =
      if rule.key name = rule.key other then some value else t.get? other := by
  split
  next hkey =>
    have hself : (t.insert name value).get? name = some value := get?_insert_self
    rwa [get?_eq, hkey, ← get?_eq] at hself
  next hkey =>
    rw [get?_eq, get?_eq, toList_insert]
    split
    · -- Names keep their places, and the pair that is found keeps its value.
      let update (pair : String × String) : String × String :=
        if rule.key pair.1 == rule.key name then (pair.1, value) else pair
      have hname (pair : String × String) : (update pair).1 = pair.1 := by
        simp only [update]
        split <;> rfl
      have htest : (fun pair => rule.key pair.1 == rule.key other) ∘ update =
          fun pair => rule.key pair.1 == rule.key other := by
        funext pair
        rw [Function.comp_apply, hname]
      rw [List.find?_map, htest, Option.map_map]
      refine Option.map_congr fun pair hpair => ?_
      have hother : rule.key pair.1 = rule.key other := by simpa using List.find?_some hpair
      have hne : rule.key pair.1 ≠ rule.key name := fun h => hkey (h.symm.trans hother)
      simp [hne]
    · rw [List.find?_append, List.find?_singleton, if_neg (by simpa using hkey), Option.or_none]

/-- A name that is offered a value has it unless it has one, and other names have theirs. -/
theorem get?_insertIfAbsent :
    (t.insertIfAbsent name value).get? other =
      (t.get? other).or (if rule.key name = rule.key other then some value else none) := by
  rw [get?_eq, get?_eq, toList_insertIfAbsent]
  split
  next hcontains =>
    split
    next hkey =>
      obtain ⟨old, hold⟩ := Option.isSome_iff_exists.mp
        ((contains_eq_isSome_get? t name).symm.trans hcontains)
      rw [get?_eq, hkey] at hold
      rw [hold, Option.some_or]
    next => rw [Option.or_none]
  next =>
    rw [List.find?_append, List.find?_singleton, Option.map_or]
    congr 1
    by_cases hkey : rule.key name = rule.key other <;> simp [hkey]

/-- A new name comes last, whether it is given a value or offered one. -/
theorem map_fst_insert :
    (t.insert name value).toList.map (·.1) = (t.insertIfAbsent name value').toList.map (·.1) := by
  have hname (pair : String × String) :
      (if rule.key pair.1 == rule.key name then (pair.1, value) else pair).1 = pair.1 := by
    split <;> rfl
  rw [toList_insert, toList_insertIfAbsent]
  split
  · rw [List.map_map]
    exact List.map_congr_left fun pair _ => hname pair
  · rw [List.map_append, List.map_append]
    rfl

/-- Which names there are after one was offered a value does not depend on values. -/
theorem map_fst_insertIfAbsent (h : t.toList.map (·.1) = u.toList.map (·.1)) :
    (t.insertIfAbsent name value).toList.map (·.1) =
      (u.insertIfAbsent name value').toList.map (·.1) := by
  have hcontains : t.contains name = u.contains name := by
    have hany (v : NameTable rule) : v.contains name =
        (v.toList.map (·.1)).any fun other => rule.key other == rule.key name := by
      rw [contains_eq, List.any_map]
      rfl
    rw [hany, hany, h]
  rw [toList_insertIfAbsent, toList_insertIfAbsent, hcontains]
  split
  · exact h
  · rw [List.map_append, List.map_append, h]
    rfl

/-- The pairs of a table are its names with their values. -/
theorem toList_eq_filterMap (t : NameTable rule) :
    t.toList = (t.toList.map (·.1)).filterMap fun name => (t.get? name).map (name, ·) := by
  have hpair : ∀ pair ∈ t.toList, (t.get? pair.1).map (pair.1, ·) = some pair := by
    intro pair hpair
    have hvalue : pair.2 ∈ (t.get? pair.1).toList := by
      rw [← map_filter_key]
      exact List.mem_map_of_mem (List.mem_filter.mpr ⟨hpair, beq_self_eq_true _⟩)
    rw [Option.mem_toList.mp hvalue, Option.map_some]
  rw [List.filterMap_map]
  exact ((List.filterMap_congr hpair).trans List.filterMap_some).symm

/-! ## Tables of pairs -/

/-- The pairs of which no earlier one has the same key. -/
def firsts (rule : NameRule) : List (String × String) → List (String × String)
  | [] => []
  | pair :: rest =>
    pair :: (firsts rule rest).filter fun later => rule.key later.1 != rule.key pair.1

/-- The first pairs are some of the pairs, in their order. -/
theorem firsts_sublist (rule : NameRule) (pairs : List (String × String)) :
    (firsts rule pairs).Sublist pairs := by
  induction pairs with
  | nil => exact .slnil
  | cons pair rest ih => exact .cons_cons pair (List.filter_sublist.trans ih)

/-- Of pairs that are related one by one and have the same names, the same ones are first. -/
theorem forall₂_firsts {R : String × String → String × String → Prop}
    (hname : ∀ pair pair', R pair pair' → pair.1 = pair'.1) {pairs pairs' : List (String × String)}
    (h : List.Forall₂ R pairs pairs') :
    List.Forall₂ R (firsts rule pairs) (firsts rule pairs') := by
  induction h with
  | nil => exact .nil
  | @cons pair pair' _ _ hhead _ ih =>
    refine .cons hhead (List.rel_filter (fun later later' hlater => ?_) ih)
    dsimp only
    rw [hname _ _ hhead, hname _ _ hlater]

/-- Adding pairs to a table adds those whose keys are new, each once. -/
theorem toList_foldl_insertIfAbsent (t : NameTable rule) (pairs : List (String × String)) :
    (pairs.foldl (fun t pair => t.insertIfAbsent pair.1 pair.2) t).toList =
      t.toList ++ (firsts rule pairs).filter fun pair => !t.contains pair.1 := by
  -- The table grows with each pair, so the induction is over any table.
  induction pairs generalizing t with
  | nil => simp [firsts]
  | cons pair rest ih =>
    rw [List.foldl_cons, ih, firsts, toList_insertIfAbsent, List.filter_cons, List.filter_filter]
    have hnew : (fun later : String × String =>
        !(t.insertIfAbsent pair.1 pair.2).contains later.1) =
          fun later => !t.contains later.1 && rule.key later.1 != rule.key pair.1 := by
      funext later
      rw [contains_insertIfAbsent, Bool.not_or, bne, BEq.comm]
    rw [hnew]
    by_cases hcontains : t.contains pair.1
    · rw [if_pos hcontains, if_neg (by simp [hcontains])]
    · rw [if_neg hcontains, if_pos (by simp [hcontains]), List.append_assoc]
      rfl

/-- A table of pairs holds the first pair of each key, in order. -/
theorem toList_ofList (pairs : List (String × String)) :
    (ofList pairs : NameTable rule).toList = firsts rule pairs := by
  rw [ofList, toList_foldl_insertIfAbsent, toList_empty, List.nil_append]
  exact List.filter_eq_self.mpr fun pair _ => by rw [contains_eq, toList_empty]; rfl

/-- The keys of a table of pairs are those of the pairs in order, each once. -/
theorem map_key_ofList (pairs : List (String × String)) :
    (ofList pairs : NameTable rule).toList.map (rule.key ·.1) =
      (pairs.map (rule.key ·.1)).eraseDups := by
  -- A pair is added behind those in front of it, so the induction is from the end.
  induction pairs using List.reverseRecOn with
  | nil => rfl
  | append_singleton front last ih =>
    have hadded : (ofList (front ++ [last]) : NameTable rule) =
        (ofList front).insertIfAbsent last.1 last.2 := by
      rw [ofList, List.foldl_append]
      rfl
    have hcontains : (ofList front : NameTable rule).contains last.1 ↔
        rule.key last.1 ∈ front.map (rule.key ·.1) := by
      rw [contains_iff, ← List.mem_eraseDups, ← ih, List.mem_map]
    rw [hadded, toList_insertIfAbsent, List.map_append, List.map_singleton,
      Accumulation.eraseDups_concat]
    by_cases hlast : rule.key last.1 ∈ front.map (rule.key ·.1)
    · rw [if_pos (hcontains.mpr hlast), if_pos hlast, ih]
    · rw [if_neg (mt hcontains.mp hlast), if_neg hlast, List.map_append, ih]
      rfl

/-- The first pair with a key is kept. -/
theorem find?_firsts (rule : NameRule) (pairs : List (String × String)) (key : String) :
    (firsts rule pairs).find? (fun pair => rule.key pair.1 == key) =
      pairs.find? fun pair => rule.key pair.1 == key := by
  induction pairs with
  | nil => rfl
  | cons pair rest ih =>
    rw [firsts, List.find?_cons, List.find?_cons]
    cases hpair : rule.key pair.1 == key with
    | true => rfl
    | false =>
      -- A pair with the key does not have that of the pair in front, so it is not left out.
      have hkept : (fun later : String × String =>
          (rule.key later.1 != rule.key pair.1) && (rule.key later.1 == key)) =
            fun later => rule.key later.1 == key := by
        funext later
        cases hlater : rule.key later.1 == key with
        | false => rw [Bool.and_false]
        | true =>
          have hne : rule.key later.1 ≠ rule.key pair.1 := by
            rw [beq_iff_eq.mp hlater]
            exact (beq_eq_false_iff_ne.mp hpair).symm
          rw [bne_iff_ne.mpr hne, Bool.and_true]
      simp only [List.find?_filter, Bool.decide_and, Bool.decide_eq_true, hkept, ih]

/-- A name has the value of the first pair with its key. -/
theorem get?_ofList (pairs : List (String × String)) (name : String) :
    (ofList pairs : NameTable rule).get? name =
      (pairs.find? fun pair => rule.key pair.1 == rule.key name).map (·.2) := by
  rw [get?_eq, toList_ofList, find?_firsts]

/-- With names compared as they are, a name has the value that looking it up in the pairs finds. -/
theorem get?_ofList_eq_lookup (pairs : List (String × String)) (name : String) :
    (ofList pairs : NameTable .exact).get? name = pairs.lookup name := by
  rw [get?_ofList]
  induction pairs with
  | nil => rfl
  | cons pair rest ih =>
    rw [List.find?_cons, List.lookup_cons]
    simp only [NameRule.key, BEq.comm (a := pair.1)] at ih ⊢
    cases name == pair.1 with
    | true => rfl
    | false => exact ih

end RelationGateway.NameTable
