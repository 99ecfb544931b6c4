import Mathlib.Data.List.Pairwise
import RelationGateway.Proofs.Accumulation
import RelationGateway.Proofs.Sql.Skeleton

/-!
# Building selections

A selection is built step by step. Filters are kept in the order of their steps and sorted by
family when the statement is written, and the last number of rows counts.

* `Select.Step`, `Select.build`: building a selection;
* `sortedByFamily`, `Select.filtersByFamily_eq`: the order of filters is a stable sort;
* `Select.params_build`: the parameters of a selection that is built.
-/

namespace RelationGateway

/-- The place of a family among all. -/
def Family.place : Family → Nat
  | .comparison => 0
  | .pattern => 1
  | .is => 2
  | .among => 3

namespace Sql

/-! ## The order of filters -/

/-- The family of the second filter does not come before that of the first. -/
def noLater (a b : Column × Filter) : Bool :=
  a.2.condition.family.place ≤ b.2.condition.family.place

/-- Filters with their columns in the order of their families. Those of one family stay in the
order in which they are. -/
def sortedByFamily (filters : List (Column × Filter)) : List (Column × Filter) :=
  filters.mergeSort noLater

theorem noLater_trans (a b c : Column × Filter) (hab : noLater a b) (hbc : noLater b c) :
    noLater a c := by
  simp only [noLater, decide_eq_true_eq] at hab hbc ⊢
  omega

theorem noLater_total (a b : Column × Filter) : noLater a b || noLater b a := by
  simp only [noLater, Bool.or_eq_true, decide_eq_true_eq]
  omega

/-- Filters in the order of families are the families one after the other. -/
theorem flatMap_filter_family {filters : List (Column × Filter)}
    (hsorted : filters.Pairwise fun a b => noLater a b) :
    (Family.all.flatMap fun k => filters.filter (·.2.condition.family == k)) = filters := by
  induction filters with
  | nil => rfl
  | cons first rest ih =>
    obtain ⟨hfirst, hrest⟩ := List.pairwise_cons.mp hsorted
    have ih := ih hrest
    -- No family in front of that of the first filter is met later.
    have hearlier (k : Family) (hk : k.place < first.2.condition.family.place) :
        rest.filter (·.2.condition.family == k) = [] := by
      refine List.filter_eq_nil_iff.mpr fun pair hpair heq => ?_
      have hle : first.2.condition.family.place ≤ pair.2.condition.family.place :=
        of_decide_eq_true (hfirst pair hpair)
      rw [beq_iff_eq.mp heq] at hle
      omega
    simp only [Family.all, List.flatMap_cons, List.flatMap_nil, List.append_nil,
      List.filter_cons] at ih ⊢
    cases hx : first.2.condition.family with
    | comparison => simpa [hx] using ih
    | pattern => simpa [hx, hearlier .comparison (by simp [hx, Family.place])] using ih
    | is =>
      simpa [hx, hearlier .comparison (by simp [hx, Family.place]),
        hearlier .pattern (by simp [hx, Family.place])] using ih
    | among =>
      simpa [hx, hearlier .comparison (by simp [hx, Family.place]),
        hearlier .pattern (by simp [hx, Family.place]),
        hearlier .is (by simp [hx, Family.place])] using ih

/-- Sorting by family keeps the order in each family. -/
theorem filter_sortedByFamily (filters : List (Column × Filter)) (k : Family) :
    (sortedByFamily filters).filter (·.2.condition.family == k) =
      filters.filter (·.2.condition.family == k) := by
  -- The filters of a family are in order already, so they are found in the sorted list.
  have hsame : (filters.filter (·.2.condition.family == k)).Pairwise fun a b => noLater a b := by
    refine List.pairwise_of_forall_mem_list fun a ha b hb => ?_
    have ha := beq_iff_eq.mp (List.mem_filter.mp ha).2
    have hb := beq_iff_eq.mp (List.mem_filter.mp hb).2
    simp [noLater, ha, hb]
  have hsublist := (List.sublist_mergeSort noLater_trans noLater_total hsame
    List.filter_sublist).filter (·.2.condition.family == k)
  rw [List.filter_filter] at hsublist
  simp only [Bool.and_self] at hsublist
  have hlength := ((List.mergeSort_perm filters noLater).filter
    (·.2.condition.family == k)).length_eq
  exact (hsublist.eq_of_length hlength.symm).symm

namespace Select

/-- The filters of a selection are written in the order of their families. -/
theorem filtersByFamily_eq (s : Select) : s.filtersByFamily = sortedByFamily s.filters := by
  have hsorted := List.pairwise_mergeSort noLater_trans noLater_total s.filters
  calc s.filtersByFamily
      = Family.all.flatMap fun k =>
          (sortedByFamily s.filters).filter (·.2.condition.family == k) := by
        simp only [filtersByFamily, filter_sortedByFamily]
    _ = sortedByFamily s.filters := flatMap_filter_family hsorted

/-- Filters are written alike exactly if those of each family are the same. -/
theorem filtersByFamily_eq_iff {s s' : Select} : s.filtersByFamily = s'.filtersByFamily ↔
    ∀ k, s.filters.filter (·.2.condition.family == k) =
      s'.filters.filter (·.2.condition.family == k) := by
  constructor
  · intro h k
    rw [filtersByFamily_eq, filtersByFamily_eq] at h
    rw [← filter_sortedByFamily s.filters, h, filter_sortedByFamily]
  · intro h
    simp only [filtersByFamily, h]

/-! ## Steps -/

/-- A step in building a selection. -/
inductive Step where
  /-- A column is selected. -/
  | select (column : Column)
  /-- A filter on a column is added. -/
  | filter (column : Column) (f : Filter)
  /-- Rows are grouped by a column. -/
  | groupByColumn (column : Column)
  /-- Rows are grouped by the column at a place. -/
  | groupByPlace (n : Nat)
  /-- Rows are ordered by a column. -/
  | orderBy (column : Column) (direction : Option Direction)
  /-- The greatest number of rows is set. -/
  | limit (n : Nat)
  /-- The number of rows left out at the start is set. -/
  | offset (n : Nat)
deriving DecidableEq, Repr

namespace Step

/-- The selection after a step. -/
def apply (s : Select) : Step → Select
  | .select column => s.select column
  | .filter column f => Select.filter s column f
  | .groupByColumn column => s.groupBy (.column column.name)
  | .groupByPlace n => s.groupBy (.position n)
  | .orderBy column direction => s.orderBy column direction
  | .limit n => s.withLimit n
  | .offset n => s.withOffset n

/-- The column that a step is about, if it is about one. -/
def column? : Step → Option Column
  | .select column | .filter column _ | .groupByColumn column | .orderBy column _ => some column
  | .groupByPlace _ | .limit _ | .offset _ => none

/-- The filter that a step adds, with its column. -/
def filter? : Step → Option (Column × Filter)
  | .filter column f => some (column, f)
  | _ => none

/-- The greatest number of rows that a step sets. -/
def limit? : Step → Option Nat
  | .limit n => some n
  | _ => none

/-- The number of rows left out that a step sets. -/
def offset? : Step → Option Nat
  | .offset n => some n
  | _ => none

/-- Selecting a column changes at most the selected columns. -/
theorem select_eq (s : Select) (column : Column) :
    s.select column = { s with projection := (s.select column).projection } := by
  unfold Select.select
  split <;> rfl

/-- A step adds its filter behind those that are there. -/
theorem filters_apply (s : Select) (step : Step) :
    (step.apply s).filters = s.filters ++ step.filter?.toList := by
  cases step with
  | select column => rw [apply, select_eq]; exact (List.append_nil _).symm
  | filter column f => rfl
  | _ => exact (List.append_nil _).symm

/-- A step sets the greatest number of rows if it is such a step. -/
theorem limit_apply (s : Select) (step : Step) :
    (step.apply s).limit = step.limit?.or s.limit := by
  cases step with
  | select column => rw [apply, select_eq]; rfl
  | _ => rfl

/-- A step sets the number of rows left out if it is such a step. -/
theorem offset_apply (s : Select) (step : Step) :
    (step.apply s).offset = step.offset?.or s.offset := by
  cases step with
  | select column => rw [apply, select_eq]; rfl
  | _ => rfl

end Step

/-- The selection of a relation that some steps build. -/
def build (r : Relation) (steps : List Step) : Select :=
  steps.foldl Step.apply { relation := r }

/-- The filters of a selection are those of its steps, in their order. -/
theorem filters_build (r : Relation) (steps : List Step) :
    (build r steps).filters = steps.filterMap Step.filter? :=
  Accumulation.foldl_collect Select.filters Step.filter? Step.filters_apply steps { relation := r }

/-- The literals of filters one after the other. -/
def operands (filters : List (Column × Filter)) : List String :=
  filters.flatMap fun pair => pair.2.condition.literals

/-- The parameters of a selection are the literals of its filters, sorted by family, and then the
last numbers of rows that were set. -/
theorem params_build (r : Relation) (steps : List Step) :
    (build r steps).compile.params =
      operands (sortedByFamily (steps.filterMap Step.filter?)) ++
      ((steps.filterMap Step.limit?).getLast?.toList ++
        (steps.filterMap Step.offset?).getLast?.toList).map toString := by
  have hlimit : (build r steps).limit = (steps.filterMap Step.limit?).getLast? := by
    rw [build, Accumulation.foldl_set Select.limit Step.limit? Step.limit_apply, Option.or_none]
  have hoffset : (build r steps).offset = (steps.filterMap Step.offset?).getLast? := by
    rw [build, Accumulation.foldl_set Select.offset Step.offset? Step.offset_apply, Option.or_none]
  rw [params_compile, literals, filtersByFamily_eq, filters_build, hlimit, hoffset]
  rfl

end Select

end Sql

end RelationGateway
