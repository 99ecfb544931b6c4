import Mathlib.Data.List.Basic
import Mathlib.Data.List.Induction
import Mathlib.Data.List.Nodup
import Mathlib.Data.Set.Function

/-!
# Collecting step by step

What is built by a fold over steps is read off the list of the steps, field by field.

* `foldl_collect`: a field to which each step adds what it brings;
* `foldl_set_or`: a field that some steps set and others offer a value for;
* `foldl_set`: a field that the last step which sets it decides;
* `exists_of_flatMap_eq_append_cons`: what is written item by item is divided at a place in what is
  written for one item;
* `eraseDups_concat`, `eraseDups_map_of_injOn`: a list in which repeated items are left out.
-/

namespace RelationGateway.Accumulation

section Fields

variable {σ ι α : Type} {apply : σ → ι → σ}

/-- What is collected in a field is what the steps bring, in their order. -/
theorem foldl_collect (field : σ → List α) (bring? : ι → Option α)
    (hstep : ∀ s step, field (apply s step) = field s ++ (bring? step).toList) (steps : List ι)
    (s : σ) : field (steps.foldl apply s) = field s ++ steps.filterMap bring? := by
  -- The value built so far is an accumulator, so the induction is over any.
  induction steps generalizing s with
  | nil => simp
  | cons step rest ih =>
    rw [List.foldl_cons, ih, hstep, List.append_assoc, List.filterMap_cons]
    cases bring? step <;> rfl

/-- What some steps set and others offer is what was set last, or else what was there before, or
else what was offered first. -/
theorem foldl_set_or (field : σ → Option α) (set? offer? : ι → Option α)
    (hstep : ∀ s step, field (apply s step) = (set? step).or ((field s).or (offer? step)))
    (steps : List ι) (s : σ) :
    field (steps.foldl apply s) =
      (steps.filterMap set?).getLast?.or ((field s).or (steps.filterMap offer?).head?) := by
  induction steps generalizing s with
  | nil => simp
  | cons step rest ih =>
    have hset : ((step :: rest).filterMap set?).getLast? =
        (rest.filterMap set?).getLast?.or (set? step) := by
      rw [List.filterMap_cons]
      cases set? step with
      | none => rw [Option.or_none]
      | some a => cases hrest : rest.filterMap set? <;> simp [List.getLast?_cons]
    have hoffer : ((step :: rest).filterMap offer?).head? =
        (offer? step).or (rest.filterMap offer?).head? := by
      rw [List.filterMap_cons]
      cases offer? step <;> rfl
    rw [List.foldl_cons, ih, hstep, hset, hoffer]
    simp only [Option.or_assoc]

/-- What is set by steps is what the last of them sets. -/
theorem foldl_set (field : σ → Option α) (set? : ι → Option α)
    (hstep : ∀ s step, field (apply s step) = (set? step).or (field s)) (steps : List ι) (s : σ) :
    field (steps.foldl apply s) = (steps.filterMap set?).getLast?.or (field s) := by
  have hnone : steps.filterMap (fun _ => (none : Option α)) = [] := by simp
  rw [foldl_set_or field set? (fun _ => none) (by simpa using hstep), hnone, List.head?_nil,
    Option.or_none]

end Fields

/-- Where something stands in what is written item by item, it stands in what is written for one of
the items, and the rest is written for the items around it. -/
theorem exists_of_flatMap_eq_append_cons {α β : Type} {f : α → List β} {items : List α} {y : β}
    {front back : List β} (h : items.flatMap f = front ++ y :: back) :
    ∃ before item after left right, items = before ++ item :: after ∧
      f item = left ++ y :: right ∧ front = before.flatMap f ++ left ∧
      back = right ++ after.flatMap f := by
  induction items generalizing front with
  | nil => simp at h
  | cons item rest ih =>
    -- If it does not stand in what is written for the first item, it stands behind that.
    have hlater (more : List β) (hmore : rest.flatMap f = more ++ y :: back)
        (hfront : front = f item ++ more) :
        ∃ before other after left right, item :: rest = before ++ other :: after ∧
          f other = left ++ y :: right ∧ front = before.flatMap f ++ left ∧
          back = right ++ after.flatMap f := by
      obtain ⟨before, other, after, left, right, rfl, hother, rfl, hback⟩ := ih hmore
      refine ⟨item :: before, other, after, left, right, rfl, hother, ?_, hback⟩
      rw [hfront, List.flatMap_cons, List.append_assoc]
    rw [List.flatMap_cons] at h
    rcases List.append_eq_append_iff.mp h with ⟨more, hfront, hmore⟩ | ⟨tail, hitem, htail⟩
    · exact hlater more hmore hfront
    · cases tail with
      | nil =>
        rw [List.append_nil] at hitem
        exact hlater [] htail.symm (by rw [hitem, List.append_nil])
      | cons z right =>
        obtain ⟨rfl, hback⟩ := List.cons.inj htail
        exact ⟨[], item, rest, front, right, rfl, hitem, rfl, hback⟩

section Repetitions

variable {α β : Type} [BEq α] [LawfulBEq α] [BEq β] [LawfulBEq β]

/-- A last item is left out exactly if it stands in front already. -/
theorem eraseDups_concat (xs : List α) (x : α) :
    (xs ++ [x]).eraseDups = if x ∈ xs then xs.eraseDups else xs.eraseDups ++ [x] := by
  rw [List.eraseDups_append]
  by_cases h : x ∈ xs
  · simp [h, List.removeAll]
  · simp [h, List.removeAll, List.eraseDups_cons]

/-- No item is left that stands in front already. -/
theorem nodup_eraseDups (xs : List α) : xs.eraseDups.Nodup := by
  induction xs using List.reverseRecOn with
  | nil => exact List.nodup_nil
  | append_singleton front last ih =>
    rw [eraseDups_concat]
    split
    next => exact ih
    next hlast =>
      exact ih.append (List.nodup_singleton last)
        (List.disjoint_singleton.mpr (mt List.mem_eraseDups.mp hlast))

/-- Items that a function tells apart are repeated exactly where their images are. -/
theorem eraseDups_map_of_injOn {f : α → β} {xs : List α} (hf : Set.InjOn f {x | x ∈ xs}) :
    (xs.map f).eraseDups = xs.eraseDups.map f := by
  induction xs using List.reverseRecOn with
  | nil => rfl
  | append_singleton front last ih =>
    have hfront : Set.InjOn f {x | x ∈ front} := hf.mono fun x hx => List.mem_append_left _ hx
    have hmem : f last ∈ front.map f ↔ last ∈ front := by
      constructor
      · intro h
        obtain ⟨x, hx, heq⟩ := List.mem_map.mp h
        have : x = last := hf (List.mem_append_left _ hx) (List.mem_append_right _ (by simp)) heq
        exact this ▸ hx
      · exact List.mem_map_of_mem
    rw [List.map_append, List.map_singleton, eraseDups_concat, eraseDups_concat, ih hfront]
    by_cases h : last ∈ front
    · rw [if_pos (hmem.mpr h), if_pos h]
    · rw [if_neg (mt hmem.mp h), if_neg h, List.map_append, List.map_singleton]

end Repetitions

end RelationGateway.Accumulation
