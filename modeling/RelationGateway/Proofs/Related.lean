import Mathlib.Data.List.Forall2

/-!
# Related lists

Two lists whose items are related one by one give the same wherever related items do.
-/

namespace RelationGateway

variable {α β : Type} {R : α → α → Prop} {xs ys : List α}

/-- Related lists give the same when related items do. -/
theorem filterMap_eq_of_forall₂ (hlists : List.Forall₂ R xs ys) {f : α → Option β}
    (hf : ∀ x y, R x y → f x = f y) : xs.filterMap f = ys.filterMap f := by
  induction hlists with
  | nil => rfl
  | cons hhead _ ih => rw [List.filterMap_cons, List.filterMap_cons, hf _ _ hhead, ih]

/-- What holds of the items of a list holds of those of a related list if related items pass it
on. -/
theorem forall_mem_of_forall₂ (hlists : List.Forall₂ R xs ys) {p : α → Prop}
    (hp : ∀ x y, R x y → p x → p y) (hxs : ∀ x ∈ xs, p x) : ∀ y ∈ ys, p y := by
  induction hlists with
  | nil => exact hxs
  | cons hhead _ ih =>
    rw [List.forall_mem_cons] at hxs ⊢
    exact ⟨hp _ _ hhead hxs.1, ih hxs.2⟩

/-- In related lists related items are found by tests that related items pass alike. -/
theorem rel_find?_of_forall₂ (hlists : List.Forall₂ R xs ys) {p : α → Bool}
    (hp : ∀ x y, R x y → p x = p y) :
    Option.Rel (fun x y => R x y ∧ p x) (xs.find? p) (ys.find? p) := by
  induction hlists with
  | nil => exact .none
  | @cons x y _ _ hhead _ ih =>
    -- Both heads pass the test or neither does, so the same place is found in both lists.
    rw [List.find?_cons, List.find?_cons, ← hp x y hhead]
    cases hx : p x with
    | false => exact ih
    | true => exact .some ⟨hhead, hx⟩

/-- The same is found in related lists when related items pass the same test. -/
theorem map_find?_eq_of_forall₂ (hlists : List.Forall₂ R xs ys) {p : α → Bool} {f : α → β}
    (hp : ∀ x y, R x y → p x = p y) (hf : ∀ x y, R x y → p x → f x = f y) :
    (xs.find? p).map f = (ys.find? p).map f := by
  have hfound := rel_find?_of_forall₂ hlists hp
  revert hfound
  generalize xs.find? p = x
  generalize ys.find? p = y
  intro hfound
  cases hfound with
  | none => rfl
  | some h => exact congrArg some (hf _ _ h.1 h.2)

/-- Lists with a last item are related if what is in front and the last items are. -/
theorem forall₂_concat_iff {x y : α} :
    List.Forall₂ R (xs ++ [x]) (ys ++ [y]) ↔ List.Forall₂ R xs ys ∧ R x y := by
  rw [← List.forall₂_reverse_iff, List.reverse_concat, List.reverse_concat, List.forall₂_cons,
    List.forall₂_reverse_iff, and_comm]

end RelationGateway
