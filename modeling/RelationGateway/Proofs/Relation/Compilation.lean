import RelationGateway.Proofs.Relation.Validation
import RelationGateway.Proofs.Sql.Injectivity

/-!
# The statement tells the listing

Two requests for listings of one relation that pass all checks compile to the same statement
exactly if they ask for the same: nothing that a request asks for is dropped, and no two things are
taken for one.

* `Agree`: what two listings have in common that ask for the same;
* `compile_eq_iff_agree`: listings compile to one statement exactly if they agree.
-/

namespace RelationGateway.Listing

/-- The filters of one family of operators, in order. -/
def filtersOf (l : Listing) (family : Family) : List Filter :=
  l.filters.filter (·.condition.family == family)

/-- Two listings ask for the same. Columns that are selected again do not count, and filters of
different families need not stand in the same order. -/
structure Agree (l l' : Listing) : Prop where
  select : l.select.eraseDups = l'.select.eraseDups
  filters : ∀ family, l.filtersOf family = l'.filtersOf family
  groups : l.groups = l'.groups
  order : l.order = l'.order
  limit : l.limit = l'.limit
  offset : l.offset = l'.offset

variable {r : Relation} {maxLimit maxLimit' : Option Nat} {query query' : NameTable .exact}
  {l l' : Listing}

/-- The column of a name, also if the relation has none. -/
def columnOf (r : Relation) (name : String) : Column := (r.column? name).getD { name, type := "" }

theorem columnOf_name (r : Relation) (name : String) : (columnOf r name).name = name := by
  rw [columnOf]
  cases hcolumn : r.column? name with
  | none => rfl
  | some column => simpa using List.find?_some hcolumn

/-- The filters of a listing of known columns are all selected by. -/
theorem Known.filters_selection (hknown : Known r l) :
    (selection r l).filters = l.filters.map fun f => (columnOf r f.column, f) := by
  rw [selection, ← List.filterMap_eq_map]
  refine List.filterMap_congr fun f hf => ?_
  obtain ⟨column, hcolumn, -, -⟩ := knownColumn_eq_ok (hknown.filters f hf)
  rw [Function.comp_apply, columnOf, hcolumn]
  rfl

theorem Known.takesColumns_selection (hknown : Known r l) :
    (selection r l).TakesColumns (columnOf r) := by
  intro pair hpair
  rw [hknown.filters_selection] at hpair
  obtain ⟨f, -, rfl⟩ := List.mem_map.mp hpair
  rfl

/-- Listings of known columns filter alike exactly if the filters of each family are the same. -/
theorem filtersByFamily_selection_eq_iff (hknown : Known r l) (hknown' : Known r l') :
    (selection r l).filtersByFamily = (selection r l').filtersByFamily ↔
      ∀ family, l.filtersOf family = l'.filtersOf family := by
  have hfilters {l : Listing} (hknown : Known r l) (family : Family) :
      (selection r l).filters.filter (·.2.condition.family == family) =
        (l.filtersOf family).map fun f => (columnOf r f.column, f) := by
    rw [hknown.filters_selection, List.filter_map]
    rfl
  have hinjective : Function.Injective fun f : Filter => (columnOf r f.column, f) :=
    fun _ _ h => congrArg Prod.snd h
  rw [Sql.Select.filtersByFamily_eq_iff]
  refine forall_congr' fun family => ?_
  rw [hfilters hknown, hfilters hknown', (List.map_injective_iff.mpr hinjective).eq_iff]

/-- Two requests for listings of one relation that pass all checks compile, and to the same text
with the same parameters exactly if the listings agree. -/
theorem compile_eq_iff_agree (h : check r maxLimit query = .ok l)
    (h' : check r maxLimit' query' = .ok l') :
    ∃ q q', l.compile r = .ok q ∧ l'.compile r = .ok q' ∧ (q = q' ↔ Agree l l') := by
  refine ⟨_, _, compile_of_check h, compile_of_check h', ?_⟩
  obtain ⟨hsound, rfl⟩ := check_eq_ok_iff.mp h
  obtain ⟨hsound', rfl⟩ := check_eq_ok_iff.mp h'
  have hknown : Known r (wanted maxLimit query) := hsound.known_wanted
  have hknown' : Known r (wanted maxLimit' query') := hsound'.known_wanted
  have hrelation : (selection r (wanted maxLimit query)).relation =
      (selection r (wanted maxLimit' query')).relation := rfl
  rw [Sql.Select.compile_eq_iff (columnOf_name r) hrelation hknown.takesColumns_selection
    hknown'.takesColumns_selection, filtersByFamily_selection_eq_iff hknown hknown']
  simp only [selection, distinct_eq_eraseDups]
  constructor
  · rintro ⟨hselect, hfilters, hgroups, horder, hlimit, hoffset⟩
    exact ⟨hselect, hfilters, hgroups, horder, hlimit, hoffset⟩
  · rintro ⟨hselect, hfilters, hgroups, horder, hlimit, hoffset⟩
    exact ⟨hselect, hfilters, hgroups, horder, hlimit, hoffset⟩

/-- A listing of some untagged items, the last ones first. -/
def untagged (filters : List Filter) (select : List String) (direction : Direction) : Listing :=
  { filters, select, order := [⟨"id", some direction⟩], limit := some 5 }

/-- The order of filters of two families, a column that is selected again and a limit beyond the
cap do not change the statement, and the direction of the ordering does. -/
theorem compile_eq_iff_agree_untagged :
    let noTag : Filter := ⟨"tag", false, .is .null⟩
    let someIds : Filter := ⟨"id", false, .among ["1", "2"]⟩
    let l := untagged [someIds, noTag] ["id", "tag", "id"] .descending
    let l' := untagged [noTag, someIds] ["id", "tag"] .descending
    let l'' := untagged [noTag, someIds] ["id", "tag"] .ascending
    check Publication.items (some 5) (.ofList [("id", "in.(1,2)"), ("tag", "is.null"),
      ("select", "id,tag,id"), ("order", "id.desc"), ("limit", "9")]) = .ok l ∧
    check Publication.items none (.ofList [("tag", "is.null"), ("id", "in.(1,2)"),
      ("select", "id,tag"), ("order", "id.desc"), ("limit", "5")]) = .ok l' ∧
    check Publication.items none (.ofList [("tag", "is.null"), ("id", "in.(1,2)"),
      ("select", "id,tag"), ("order", "id.asc"), ("limit", "5")]) = .ok l'' ∧
    l.compile Publication.items = l'.compile Publication.items ∧
    l.compile Publication.items ≠ l''.compile Publication.items := by
  intro noTag someIds l l' l''
  have hl : check Publication.items (some 5) (.ofList [("id", "in.(1,2)"), ("tag", "is.null"),
      ("select", "id,tag,id"), ("order", "id.desc"), ("limit", "9")]) = .ok l := by decide +kernel
  have hl' : check Publication.items none (.ofList [("tag", "is.null"), ("id", "in.(1,2)"),
      ("select", "id,tag"), ("order", "id.desc"), ("limit", "5")]) = .ok l' := by decide +kernel
  have hl'' : check Publication.items none (.ofList [("tag", "is.null"), ("id", "in.(1,2)"),
      ("select", "id,tag"), ("order", "id.asc"), ("limit", "5")]) = .ok l'' := by decide +kernel
  have hagree : Agree l l' := ⟨by decide, fun family => by cases family <;> decide, rfl, rfl, rfl, rfl⟩
  have hdiffer : ¬ Agree l l'' := fun h => absurd h.order (by decide)
  obtain ⟨q, q', hq, hq', hsame⟩ := compile_eq_iff_agree hl hl'
  obtain ⟨q₁, q₁', hq₁, hq₁', hother⟩ := compile_eq_iff_agree hl hl''
  refine ⟨hl, hl', hl'', ?_, fun heq => ?_⟩
  · rw [hq, hq', hsame.mpr hagree]
  · rw [hq₁, hq₁'] at heq
    exact hdiffer (hother.mp (Except.ok.inj heq))

end RelationGateway.Listing
