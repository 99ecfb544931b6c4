import RelationGateway.Proofs.Sql.Scope

/-!
# Checked listings lose nothing

A listing that passes all checks compiles. Each column that it asks for is found again, each item of
its ordering becomes one key to sort by, and its statement names no columns but those of the
relation.

* `Known.names_template`: the names in the statement of a listing of known columns;
* `Sound.order_wanted`: the items of an ordering, each with the key that it becomes;
* `exists_template_of_check`: what passes all checks compiles.
-/

namespace RelationGateway

namespace Listing

variable {r : Relation} {maxLimit : Option Nat} {query : NameTable .exact} {l : Listing}

/-! ## Names in the statement -/

/-- A column of the relation is one that it has. -/
theorem hasColumn_of_mem {column : Column} (h : column ∈ r.columns) : r.hasColumn column.name :=
  List.find?_isSome.mpr ⟨column, h, beq_self_eq_true _⟩

/-- The name under which a listing ranks its rows, if it orders them. -/
def rankNames (l : Listing) : List String := if l.order.isEmpty then [] else [Sql.rank]

/-- Apart from the two places of the rank and from the schema and the name of the relation, the
statement of a listing of known columns names only columns of the relation. -/
theorem Known.names_template (hknown : Known r l) :
    ∃ front back, (selection r l).template.names =
        l.rankNames ++ front ++ l.rankNames ++ [r.name.schema, r.name.name] ++ back ∧
      ∀ name ∈ front ++ back, r.hasColumn name := by
  have hselect : ∀ name ∈ (selection r l).projection, r.hasColumn name := fun name hname =>
    hknown.select name (mem_distinct.mp hname)
  have hfilters : ∀ name ∈ (selection r l).filtersByFamily.map (·.1.name), r.hasColumn name := by
    intro name hname
    obtain ⟨pair, hpair, rfl⟩ := List.mem_map.mp hname
    exact hasColumn_of_mem
      (mem_columns_of_mem_filters (Sql.Select.mem_filters_of_mem_filtersByFamily hpair))
  have hgroups : ∀ name ∈ l.groups.flatMap (Sql.Template.names ∘ Sql.Select.groupTerm),
      r.hasColumn name := by
    intro name hname
    obtain ⟨grouping, hgrouping, hname⟩ := List.mem_flatMap.mp hname
    cases grouping with
    | column identifier =>
      obtain rfl := List.mem_singleton.mp hname
      exact hknown.groups _ hgrouping
    | position n => cases hname
  have horder : ∀ name ∈ l.order.map (·.column), r.hasColumn name := by
    intro name hname
    obtain ⟨term, hterm, rfl⟩ := List.mem_map.mp hname
    exact hknown.order term hterm
  have hreturned : ∀ name ∈ (selection r l).outputColumns, r.hasColumn name := by
    intro name hname
    rw [Sql.Select.outputColumns] at hname
    split at hname
    · obtain ⟨column, hcolumn, rfl⟩ := List.mem_map.mp hname
      exact hasColumn_of_mem hcolumn
    · exact hselect name hname
  -- The keys to sort by stand twice: in the rank and at the end of the inner statement.
  let ordered := l.order.map (·.column)
  refine ⟨(selection r l).projection ++ ordered,
    (selection r l).filtersByFamily.map (·.1.name) ++
      l.groups.flatMap (Sql.Template.names ∘ Sql.Select.groupTerm) ++ ordered ++
        if l.order.isEmpty then [] else (selection r l).outputColumns, ?_, fun name hname => ?_⟩
  · rw [Sql.Select.names_template, Sql.Select.names_rows, rankNames]
    cases horder : l.order with
    | nil => simp [selection, ordered, horder]
    | cons term rest => simp [selection, ordered, horder]
  · simp only [List.mem_append] at hname
    rcases hname with (hname | hname) | ((hname | hname) | hname) | hname
    · exact hselect name hname
    · exact horder name hname
    · exact hfilters name hname
    · exact hgroups name hname
    · exact horder name hname
    · split at hname
      · cases hname
      · exact hreturned name hname

/-! ## Items of an ordering -/

/-- Where something is read of every item, as many things are read, in the same order. -/
theorem forall₂_filterMap {α β : Type} {R : α → β → Prop} {f : α → Option β} {xs : List α}
    (h : ∀ x ∈ xs, ∃ y, f x = some y ∧ R x y) : List.Forall₂ R xs (xs.filterMap f) := by
  induction xs with
  | nil => exact .nil
  | cons x rest ih =>
    obtain ⟨⟨y, hread, hy⟩, hrest⟩ := List.forall_mem_cons.mp h
    rw [List.filterMap_cons_some hread]
    exact .cons hy (ih hrest)

/-- Where the checks are passed, each item of the ordering becomes one key to sort by. Its column is
the name that the check for unknown columns was given for the item. -/
theorem Sound.order_wanted (hsound : Sound r query) :
    List.Forall₂ (fun item term => SortTerm.read? item = some term ∧
        term.column = SortTerm.columnName item ∧ SortTerm.columnName item ∈ mentioned query)
      (directiveItems query "order") (wanted maxLimit query).order := by
  refine forall₂_filterMap fun item hitem => ?_
  obtain ⟨term, hread⟩ := Option.isSome_iff_exists.mp (hsound.order item hitem)
  refine ⟨term, hread, hread, (columnName_of_read? hread).symm, ?_⟩
  rw [mentioned, mem_distinct]
  exact List.mem_append_right _ (List.mem_map_of_mem hitem)

/-! ## Compiling -/

/-- A name that a listing asks for: of a selected column, of a column that rows are filtered,
grouped or ordered by. -/
def asksFor (l : Listing) (name : String) : Prop :=
  name ∈ l.select ∨ (∃ f ∈ l.filters, f.column = name) ∨ .column name ∈ l.groups ∨
    ∃ term ∈ l.order, term.column = name

/-- A listing of known columns asks only for columns of its relation. -/
theorem Known.hasColumn (hknown : Known r l) {name : String} (h : l.asksFor name) :
    r.hasColumn name := by
  rcases h with hname | ⟨f, hf, rfl⟩ | hname | ⟨term, hterm, rfl⟩
  · exact hknown.select name hname
  · exact hknown.filters f hf
  · exact hknown.groups name hname
  · exact hknown.order term hterm

/-- What passes all checks compiles. Every name that it asks for is found as a column of the
relation. Every item of its ordering becomes one key to sort by, whose column is the name that was
checked for the item, and the rows are ranked and ordered by these keys. Apart from the two places
of the rank and from the name of the relation, only columns of the relation are named in the
statement, and that is what a reader finds if no type holds a quote. -/
theorem exists_template_of_check (h : check r maxLimit query = .ok l) :
    ∃ t : Sql.Template, l.compile r = .ok t.compile ∧
      (∀ name, l.asksFor name →
        ∃ column ∈ r.columns, column.name = name ∧ knownColumn r name = .ok column) ∧
      List.Forall₂ (fun item term => SortTerm.read? item = some term ∧
          term.column = SortTerm.columnName item ∧ SortTerm.columnName item ∈ mentioned query)
        (directiveItems query "order") l.order ∧
      (∃ inner before after rest counts,
        t.compile.sql = before ++ inner ++ after ∧
        inner = "SELECT " ++ Sql.columnsText (distinct l.select) ++ Sql.rankText l.order ++
          " FROM " ++ rest ++ Sql.orderText l.order ++ counts ∧
        ((∀ column ∈ r.columns, Sql.Balanced column.type) → Sql.source? t.compile.sql = some inner ∧
          (Sql.keywords inner).count "ORDER" = min 1 l.order.length)) ∧
      (∃ front back, t.names =
          l.rankNames ++ front ++ l.rankNames ++ [r.name.schema, r.name.name] ++ back ∧
        ∀ name ∈ front ++ back, r.hasColumn name) ∧
      ((∀ column ∈ r.columns, '"' ∉ column.type.toList) →
        (Sql.lexemes? t.compile.sql).map Sql.namesRead = some t.names) := by
  have hcompile := compile_of_check h
  obtain ⟨hsound, rfl⟩ := check_eq_ok_iff.mp h
  -- The names that were checked are taken from the query, and those of the listing are among them.
  have hknown : Known r (wanted maxLimit query) := hsound.known_wanted
  refine ⟨(selection r (wanted maxLimit query)).template, hcompile, ?_, hsound.order_wanted, ?_,
    hknown.names_template, ?_⟩
  · intro name hname
    obtain ⟨column, hcolumn, hsame, hok⟩ := knownColumn_eq_ok (hknown.hasColumn hname)
    exact ⟨column, List.mem_of_find?_eq_some hcolumn, hsame, hok⟩
  · obtain ⟨rest, counts, hinner⟩ :=
      Sql.Select.exists_innerText_eq (selection r (wanted maxLimit query))
    refine ⟨_, _, _, rest, counts, Sql.Select.sql_compile _, hinner, fun htypes => ?_⟩
    have hfilters : ∀ pair ∈ (selection r (wanted maxLimit query)).filters,
        Sql.Balanced pair.1.type :=
      fun pair hpair => htypes pair.1 (mem_columns_of_mem_filters hpair)
    exact ⟨Sql.Select.source?_compile hfilters, Sql.Select.count_order_innerText hfilters⟩
  · intro htypes
    have hlegible :
        Sql.Template.Legible Sql.Unquoted (selection r (wanted maxLimit query)).template :=
      Sql.Select.legible_template (fun _ => Sql.Plain.unquoted) fun pair hpair =>
        Sql.unquoted_castEnd (htypes pair.1 (mem_columns_of_mem_filters hpair))
    have hread : Sql.lexemes? (selection r (wanted maxLimit query)).template.compile.sql = _ :=
      Sql.Template.lexemesFrom_write hlegible 1
    rw [hread, Option.map_some, Sql.Template.namesRead_lexemes]

/-- Items are ordered by both columns that the directive names, although a blank stands in front of
one of them. -/
theorem exists_template_of_check_items :
    let query : NameTable .exact := .ofList [("order", "tag.desc, id"), ("group", "1"),
      ("select", "id"), ("tag", "like.a%")]
    ∃ l statement before after rest counts,
      check Publication.items none query = .ok l ∧ l.compile Publication.items = .ok statement ∧
      l.order = [⟨"tag", some .descending⟩, ⟨"id", none⟩] ∧
      statement.sql = before ++ ("SELECT \"id\"" ++ Sql.rankText l.order ++ " FROM " ++ rest ++
        " ORDER BY \"tag\" DESC, \"id\"" ++ counts) ++ after := by
  intro query
  have hcheck : check Publication.items none query = .ok (wanted none query) := by decide +kernel
  have horder : (wanted none query).order = [⟨"tag", some .descending⟩, ⟨"id", none⟩] := by
    decide +kernel
  have hcolumns : "SELECT " ++ Sql.columnsText (distinct (wanted none query).select) =
      "SELECT \"id\"" := by decide +kernel
  have htext : Sql.orderText (wanted none query).order = " ORDER BY \"tag\" DESC, \"id\"" := by
    rw [horder]
    decide +kernel
  obtain ⟨t, hcompile, -, -, ⟨inner, before, after, rest, counts, hsql, hinner, -⟩, -⟩ :=
    exists_template_of_check hcheck
  rw [hinner, hcolumns, htext] at hsql
  exact ⟨_, _, before, after, rest, counts, hcheck, hcompile, horder, hsql⟩

end Listing

end RelationGateway
