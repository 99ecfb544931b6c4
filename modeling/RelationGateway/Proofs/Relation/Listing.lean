import Mathlib.Data.List.Basic
import RelationGateway.Proofs.Relation.FilterGrammar
import RelationGateway.Relation.Listing

/-!
# Checked listings

A listing that passes all checks names only columns of its relation, so it compiles.

* `check_eq_ok_iff`: what query variables that pass all checks have in common;
* `Known.toSelect_eq_ok`: a listing of known columns is selected as it stands;
* `compile_of_check`: what passes all checks compiles.
-/

namespace RelationGateway.Listing

variable {r : Relation} {maxLimit : Option Nat} {query : NameTable .exact} {l : Listing}

/-- The listing that query variables ask for, read without any check. -/
def wanted (maxLimit : Option Nat) (query : NameTable .exact) : Listing :=
  { filters := (filterVariables query).filterMap readFilter?
    select := directiveItems query "select"
    groups := groupings query
    order := (directiveItems query "order").filterMap SortTerm.read?
    limit := cappedLimit (directiveCount? query "limit") maxLimit
    offset := directiveCount? query "offset" }

/-- Query variables pass all checks. -/
structure Sound (r : Relation) (query : NameTable .exact) : Prop where
  /-- Only columns of the relation are mentioned. -/
  known : ∀ name ∈ mentioned query, r.hasColumn name
  /-- The items of the ordering are well formed. -/
  order : ∀ item ∈ directiveItems query "order", (SortTerm.read? item).isSome
  /-- The filters follow the grammar. -/
  filters : ∀ pair ∈ filterVariables query, (readFilter? pair).isSome
  /-- The numbers of rows are numbers. -/
  counts : ∀ name ∈ ["limit", "offset"], malformedCount? query name = none

/-- Query variables ask for a listing exactly when they pass all checks, and then for the one
that they are read as. -/
theorem check_eq_ok_iff :
    check r maxLimit query = .ok l ↔ Sound r query ∧ l = wanted maxLimit query := by
  -- Each check looks at the list of what it objects to.
  have hknown : (mentioned query).filter (fun name => !r.hasColumn name) = [] ↔
      ∀ name ∈ mentioned query, r.hasColumn name := by simp
  have horder : (directiveItems query "order").filter (fun item => (SortTerm.read? item).isNone) =
      [] ↔ ∀ item ∈ directiveItems query "order", (SortTerm.read? item).isSome := by
    simp [Option.ne_none_iff_isSome]
  have hfilters : (filterVariables query).filter (fun pair => (readFilter? pair).isNone) = [] ↔
      ∀ pair ∈ filterVariables query, (readFilter? pair).isSome := by
    simp [Option.ne_none_iff_isSome]
  have hcounts : ["limit", "offset"].filterMap (malformedCount? query) = [] ↔
      ∀ name ∈ ["limit", "offset"], malformedCount? query name = none :=
    List.filterMap_eq_nil_iff
  simp only [check, Bool.not_eq_true', ← Bool.not_eq_true, List.isEmpty_iff]
  -- The checks stand one behind the other, so the last is reached when all before it pass.
  constructor
  · intro h
    split_ifs at h with h₁ h₂ h₃ h₄
    exact ⟨⟨hknown.mp h₁, horder.mp h₂, hfilters.mp h₃, hcounts.mp h₄⟩, (Except.ok.inj h).symm⟩
  · rintro ⟨hsound, rfl⟩
    rw [if_neg (not_not.mpr (hknown.mpr hsound.known)),
      if_neg (not_not.mpr (horder.mpr hsound.order)),
      if_neg (not_not.mpr (hfilters.mpr hsound.filters)),
      if_neg (not_not.mpr (hcounts.mpr hsound.counts))]
    rfl

/-! ## Known columns -/

/-- Leaving out later copies loses no item. -/
theorem mem_distinct {item : String} {items : List String} :
    item ∈ distinct items ↔ item ∈ items := by
  -- What is kept so far is an accumulator, so membership is stated for any of it.
  have hfold : ∀ kept : List String, item ∈ items.foldl
      (fun kept item => if kept.contains item then kept else kept ++ [item]) kept ↔
        item ∈ kept ∨ item ∈ items := by
    induction items with
    | nil => simp
    | cons next rest ih =>
      intro kept
      rw [List.foldl_cons, ih, List.mem_cons]
      by_cases hnext : next ∈ kept
      · rw [if_pos (List.contains_iff_mem.mpr hnext)]
        constructor
        · rintro (h | h)
          · exact .inl h
          · exact .inr (.inr h)
        · rintro (h | rfl | h)
          · exact .inl h
          · exact .inl hnext
          · exact .inr h
      · rw [if_neg (fun h => hnext (List.contains_iff_mem.mp h)), List.mem_append,
          List.mem_singleton, or_assoc]
  simpa [distinct] using hfold []

/-- A listing names only columns of its relation. -/
structure Known (r : Relation) (l : Listing) : Prop where
  /-- The selected columns. -/
  select : ∀ name ∈ l.select, r.hasColumn name
  /-- The columns of filters. -/
  filters : ∀ filter ∈ l.filters, r.hasColumn filter.column
  /-- The columns that rows are grouped by. -/
  groups : ∀ name, .column name ∈ l.groups → r.hasColumn name
  /-- The columns that rows are ordered by. -/
  order : ∀ term ∈ l.order, r.hasColumn term.column

/-- The column of a well-formed item of an ordering is the one that the item names. -/
theorem columnName_of_read? {item : String} {term : SortTerm}
    (h : SortTerm.read? item = some term) :
    SortTerm.columnName item = term.column := by
  unfold SortTerm.read? at h
  unfold SortTerm.columnName
  -- The column stands before the first dot, or it is the whole item.
  cases hcut : Text.cut? "." item with
  | none =>
    simp only [hcut, Option.bind_eq_bind, Option.bind_some] at h
    split_ifs at h
    cases h
    rfl
  | some cut =>
    simp only [hcut, Option.bind_eq_bind, Option.bind_eq_some_iff, Option.map_eq_some_iff] at h
    obtain ⟨_, ⟨_, _, rfl⟩, hterm⟩ := h
    split_ifs at hterm
    cases hterm
    rfl

/-- What passes the checks names only known columns. -/
theorem Sound.known_wanted (hsound : Sound r query) : Known r (wanted maxLimit query) := by
  -- A name is mentioned in one of four places, and each mention is known.
  have hmention : ∀ name,
      (∃ pair ∈ filterVariables query, pair.1 = name) ∨ name ∈ directiveItems query "select" ∨
        (∃ grouping ∈ groupings query, groupedColumn? grouping = some name) ∨
        (∃ item ∈ directiveItems query "order", SortTerm.columnName item = name) →
      r.hasColumn name := by
    intro name h
    apply hsound.known
    rw [mentioned, mem_distinct]
    simpa [or_assoc] using h
  refine ⟨?_, ?_, ?_, ?_⟩
  · exact fun name hname => hmention name (.inr (.inl hname))
  · intro filter hfilter
    obtain ⟨pair, hpair, hread⟩ := List.mem_filterMap.mp hfilter
    have hcolumn : filter.column = pair.1 := (Filter.read?_eq_some_iff.mp hread).1
    exact hcolumn ▸ hmention pair.1 (.inl ⟨pair, hpair, rfl⟩)
  · exact fun name hname => hmention name (.inr (.inr (.inl ⟨_, hname, rfl⟩)))
  · intro term hterm
    obtain ⟨item, hitem, hread⟩ := List.mem_filterMap.mp hterm
    exact hmention _ (.inr (.inr (.inr ⟨item, hitem, columnName_of_read? hread⟩)))

/-! ## Compiling -/

/-- The rows that a listing of known columns asks for. -/
def selection (r : Relation) (l : Listing) : Sql.Select :=
  { relation := r
    projection := distinct l.select
    filters := l.filters.filterMap fun filter =>
      (r.column? filter.column).map fun column => (column, filter)
    groups := l.groups
    order := l.order
    limit := l.limit
    offset := l.offset }

/-- What a listing is filtered by are columns of its relation. -/
theorem mem_columns_of_mem_filters {pair : Column × Filter} (h : pair ∈ (selection r l).filters) :
    pair.1 ∈ r.columns := by
  obtain ⟨f, -, hcolumn⟩ := List.mem_filterMap.mp h
  obtain ⟨column, hfind, rfl⟩ := Option.map_eq_some_iff.mp hcolumn
  exact List.mem_of_find?_eq_some hfind

/-- A known column has the name that it was asked for under. -/
theorem knownColumn_eq_ok {name : String} (h : r.hasColumn name) :
    ∃ column, r.column? name = some column ∧ column.name = name ∧
      knownColumn r name = .ok column := by
  obtain ⟨column, hcolumn⟩ := Option.isSome_iff_exists.mp h
  have hname : column.name = name := by simpa using List.find?_some hcolumn
  exact ⟨column, hcolumn, hname, by rw [knownColumn, hcolumn]⟩

/-- A fold whose steps all succeed and change one part of the state is a fold of that part. -/
theorem foldlM_eq_ok {ε α β σ : Type} (update : β → σ) (result : β → α → β)
    {step : σ → α → Except ε σ} {xs : List α}
    (hstep : ∀ x ∈ xs, ∀ b, step (update b) x = .ok (update (result b x))) (b : β) :
    xs.foldlM step (update b) = .ok (update (xs.foldl result b)) := by
  induction xs generalizing b with
  | nil => rfl
  | cons x rest ih =>
    rw [List.foldlM_cons, hstep x List.mem_cons_self b]
    exact ih (fun y hy => hstep y (List.mem_cons_of_mem x hy)) (result b x)

/-- A fold whose steps all succeed and append to one part of the state appends all there is. -/
theorem foldlM_append_eq_ok {ε α γ σ : Type} (update : List γ → σ) (added : α → Option γ)
    {step : σ → α → Except ε σ} {xs : List α}
    (hstep : ∀ x ∈ xs, ∀ kept, step (update kept) x = .ok (update (kept ++ (added x).toList)))
    (kept : List γ) : xs.foldlM step (update kept) = .ok (update (kept ++ xs.filterMap added)) := by
  rw [foldlM_eq_ok update _ hstep, List.foldl_append_eq_append, ← List.flatMap_def,
    List.filterMap_eq_flatMap_toList]

/-- Selecting known columns adds their names, each once. -/
theorem foldlM_select {names : List String} (hnames : ∀ name ∈ names, r.hasColumn name)
    (s : Sql.Select) :
    names.foldlM (fun s name => (knownColumn r name).map s.select) s =
      .ok { s with
        projection := names.foldl
          (fun kept name => if kept.contains name then kept else kept ++ [name]) s.projection } := by
  refine foldlM_eq_ok (fun kept => { s with projection := kept }) _ ?_ s.projection
  intro name hname kept
  obtain ⟨column, -, rfl, hok⟩ := knownColumn_eq_ok (hnames name hname)
  rw [hok]
  simp only [Except.map, Sql.Select.select]
  split_ifs <;> rfl

/-- Filters on known columns are added with their columns. -/
theorem foldlM_filter {filters : List Filter} (hfilters : ∀ f ∈ filters, r.hasColumn f.column)
    (s : Sql.Select) :
    filters.foldlM (fun s f => (knownColumn r f.column).map fun c => s.filter c f) s =
      .ok { s with
        filters := s.filters ++
          filters.filterMap fun f => (r.column? f.column).map fun column => (column, f) } := by
  refine foldlM_append_eq_ok (fun kept => { s with filters := kept }) _ ?_ s.filters
  intro f hf kept
  obtain ⟨column, hcolumn, -, hok⟩ := knownColumn_eq_ok (hfilters f hf)
  rw [hok, hcolumn]
  rfl

/-- Known columns and places to group by are added. -/
theorem foldlM_addGroup {groups : List Grouping}
    (hgroups : ∀ name, .column name ∈ groups → r.hasColumn name) (s : Sql.Select) :
    groups.foldlM (addGroup r) s = .ok { s with groups := s.groups ++ groups } := by
  refine (foldlM_append_eq_ok (fun kept => { s with groups := kept }) some ?_ s.groups).trans ?_
  · intro grouping hgrouping kept
    cases grouping with
    | position n => rfl
    | column name =>
      obtain ⟨column, -, rfl, hok⟩ := knownColumn_eq_ok (hgroups name hgrouping)
      rw [addGroup, hok]
      rfl
  · rw [List.filterMap_some]

/-- Known columns to order by are added. -/
theorem foldlM_orderBy {terms : List SortTerm} (hterms : ∀ term ∈ terms, r.hasColumn term.column)
    (s : Sql.Select) :
    terms.foldlM
      (fun s term => (knownColumn r term.column).map fun c => s.orderBy c term.direction) s =
        .ok { s with order := s.order ++ terms } := by
  refine (foldlM_append_eq_ok (fun kept => { s with order := kept }) some ?_ s.order).trans ?_
  · intro term hterm kept
    obtain ⟨column, -, hname, hok⟩ := knownColumn_eq_ok (hterms term hterm)
    rw [hok]
    simp only [Except.map, Sql.Select.orderBy, hname, Option.toList_some]
  · rw [List.filterMap_some]

/-- A listing of known columns is selected as it stands. -/
theorem Known.toSelect_eq_ok (hknown : Known r l) : l.toSelect r = .ok (selection r l) := by
  -- The numbers of rows are set last, each only if it is given.
  have hlimits (s : Sql.Select) (hlimit : s.limit = none) (hoffset : s.offset = none) :
      l.offset.elim (l.limit.elim s s.withLimit) (l.limit.elim s s.withLimit).withOffset =
        { s with limit := l.limit, offset := l.offset } := by
    obtain ⟨_, _, _, _, _, _, _⟩ := s
    subst hlimit hoffset
    cases l.limit <;> cases l.offset <;> rfl
  simp only [toSelect, foldlM_select hknown.select, foldlM_filter hknown.filters,
    foldlM_addGroup hknown.groups, foldlM_orderBy hknown.order, bind, Except.bind, pure,
    Except.pure]
  rw [hlimits _ rfl rfl]
  rfl

/-- What is checked compiles to the statement of its selection. -/
theorem compile_of_check (h : check r maxLimit query = .ok l) :
    l.compile r = .ok (selection r l).compile := by
  obtain ⟨hsound, rfl⟩ := check_eq_ok_iff.mp h
  rw [compile, hsound.known_wanted.toSelect_eq_ok]
  rfl

end RelationGateway.Listing
