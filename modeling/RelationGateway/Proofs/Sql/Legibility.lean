import RelationGateway.Proofs.Sql.Reading

/-!
# Compiled statements are legible

The templates of look-ups and selections are legible: only the texts with the type of a column are
not fixed, names stand between texts, and behind each argument stands a text that does not begin
with a digit.

* `legible_lookupTemplate`: look-ups;
* `Select.legible_template`: selections.
-/

namespace RelationGateway.Sql

open Template

/-! ## Building legible templates -/

namespace Template.Legible

variable {P : String → Prop} {s identifier separator : String} {t u : Template}

/-- The template without tokens is legible. -/
theorem nil : Legible P [] := ⟨fun _ hs => absurd hs List.not_mem_nil, List.isChain_nil⟩

/-- A text may stand in front of anything. -/
theorem text (hs : P s) (ht : Legible P t) : Legible P (.text s :: t) where
  texts := by
    intro s' hs'
    rcases List.mem_cons.mp hs' with heq | hs'
    · exact (Token.text.inj heq) ▸ hs
    · exact ht.texts s' hs'
  chain := List.isChain_cons.mpr ⟨fun _ _ => trivial, ht.chain⟩

/-- A name may stand alone. -/
theorem name : Legible P [.name identifier] where
  texts := by simp
  chain := List.isChain_singleton _

/-- A name may stand in front of a text. -/
theorem name_text (ht : Legible P (.text s :: t)) : Legible P (.name identifier :: .text s :: t) where
  texts := by
    intro s' hs'
    rcases List.mem_cons.mp hs' with heq | hs'
    · exact absurd heq (by simp)
    · exact ht.texts s' hs'
  chain := List.isChain_cons_cons.mpr ⟨trivial, ht.chain⟩

/-- An argument may stand alone. -/
theorem argument {value : String} : Legible P [.argument value] where
  texts := by simp
  chain := List.isChain_singleton _

/-- A text without a digit in front may stand behind anything. -/
theorem append_text (ht : Legible P t) (hbare : BeginsBare s) (hu : Legible P (.text s :: u)) :
    Legible P (t ++ .text s :: u) where
  texts := by
    intro s' hs'
    rcases List.mem_append.mp hs' with hs' | hs'
    · exact ht.texts s' hs'
    · exact hu.texts s' hs'
  chain := by
    refine List.isChain_append.mpr ⟨ht.chain, hu.chain, ?_⟩
    rintro x - _ ⟨⟩
    cases x with
    | argument value => exact hbare
    | text s => trivial
    | name identifier => trivial

/-- Templates may stand one behind the other with a text between that does not begin with a
digit. -/
theorem joined (hseparator : P separator) (hbare : BeginsBare separator) {parts : List Template}
    (hparts : ∀ part ∈ parts, Legible P part) : Legible P (joined separator parts) := by
  induction parts with
  | nil => exact nil
  | cons part rest ih =>
    obtain ⟨hpart, hrest⟩ := List.forall_mem_cons.mp hparts
    cases rest with
    | nil => simpa [Template.joined] using hpart
    | cons next rest =>
      rw [joined_cons_cons]
      exact hpart.append_text hbare (text hseparator (ih hrest))

end Template.Legible

/-! ## Conditions and look-ups -/

/-- The template of a look-up. -/
def lookupTemplate (r : Relation) (column : Column) (key : String) : Template :=
  .text "SELECT row_to_json(t) FROM " :: relationName r ++
    [.text " AS t WHERE t.", .name column.name, .text " = "] ++ typed key column

/-- A look-up is compiled from its template. -/
theorem lookup_eq (r : Relation) (column : Column) (key : String) :
    lookup r column key = (lookupTemplate r column key).compile := rfl

/-- The text behind a value that is cast to the type of a column. -/
def castEnd (column : Column) : String := "::text AS " ++ column.type ++ ")"

variable {P : String → Prop} (hplain : ∀ s, Plain s → P s)
include hplain

/-- A value that is cast is legible if the text with the type is. -/
theorem legible_typed {column : Column} (hcast : P (castEnd column)) (value : String) :
    Legible P (typed value column) := by
  have hbare : BeginsBare (castEnd column) := by
    rintro c hc
    obtain rfl : ':' = c := by simpa [castEnd] using hc
    decide
  exact .text (hplain _ (by decide)) (Legible.argument.append_text hbare (.text hcast .nil))

/-- A filter is legible if the text with the type of its column is. -/
theorem legible_filterTerm {column : Column} (hcast : P (castEnd column)) (f : Filter) :
    Legible P (filterTerm column f) := by
  have hclose : Legible P [.text ")"] := .text (hplain _ (by decide)) .nil
  have hcondition : Legible P (condition column f.condition) := by
    cases f.condition with
    | compare comparison operand =>
      have hsign : P (" " ++ comparison.sign ++ " ") := hplain _ (by cases comparison <;> decide)
      exact .name_text (.text hsign (legible_typed hplain hcast operand))
    | «matches» matching pattern =>
      have hword : P ("::text " ++ matching.word ++ " ") := hplain _ (by cases matching <;> decide)
      exact .name_text (.text hword .argument)
    | is constant =>
      have hword : P (" IS " ++ constant.word) := hplain _ (by cases constant <;> decide)
      exact .name_text (.text hword .nil)
    | among items =>
      have hitems : Legible P (joined ", " (items.map fun item => typed item column)) := by
        refine .joined (hplain _ (by decide)) (by decide) fun part hpart => ?_
        obtain ⟨item, -, rfl⟩ := List.mem_map.mp hpart
        exact legible_typed hplain hcast item
      exact .append_text (.name_text (.text (hplain _ (by decide)) hitems)) (by decide) hclose
  rw [filterTerm, List.cons_append]
  exact .text (hplain _ (by split <;> decide)) (hcondition.append_text (by decide) hclose)

/-- A look-up is legible if the text with the type of the key is. -/
theorem legible_lookupTemplate {column : Column} (hcast : P (castEnd column)) (r : Relation)
    (key : String) : Legible P (lookupTemplate r column key) := by
  have hfixed {s : String} {t : Template} (hs : Plain s) (ht : Legible P t) :
      Legible P (.text s :: t) := .text (hplain s hs) ht
  exact hfixed (by decide) (.name_text (hfixed (by decide) (.name_text (hfixed (by decide)
    (.name_text (hfixed (by decide) (legible_typed hplain hcast key)))))))

/-! ## Selections -/

namespace Select

/-- A clause may stand behind anything legible. -/
theorem legible_append_clause {word separator : String} (hword : Plain word)
    (hseparator : Plain separator) (hbare : BeginsBare word) (hbare' : BeginsBare separator)
    {t : Template} (ht : Legible P t) {parts : List Template}
    (hparts : ∀ part ∈ parts, Legible P part) :
    Legible P (t ++ clause word separator parts) := by
  unfold clause
  split
  · rwa [List.append_nil]
  · exact ht.append_text hbare
      (.text (hplain _ hword) (.joined (hplain _ hseparator) hbare' hparts))

/-- A number of rows may stand behind anything legible. -/
theorem legible_append_countClause {word : String} (hword : Plain word) (hbare : BeginsBare word)
    {t : Template} (ht : Legible P t) (n : Option Nat) :
    Legible P (t ++ countClause word n) := by
  cases n with
  | none => rwa [countClause, List.append_nil]
  | some n =>
    have hend : Legible P [.text "::text AS bigint)"] := .text (hplain _ (by decide)) .nil
    have hcount : Legible P (rowCount n) :=
      .text (hplain _ (by decide)) (Legible.argument.append_text (by decide) hend)
    exact ht.append_text hbare (.text (hplain _ hword) hcount)

/-- A key to sort by is a name with at most a text behind it. -/
theorem legible_sortTerm (term : SortTerm) : Legible P (sortTerm term) := by
  obtain ⟨column, _ | direction⟩ := term
  · exact .name
  · exact .name_text (.text (hplain _ (by cases direction <;> decide)) .nil)

/-- What rows are grouped by is a name or a number. -/
theorem legible_groupTerm (grouping : Grouping) : Legible P (groupTerm grouping) := by
  cases grouping with
  | column identifier => exact .name
  | position n =>
    have hnumber : Plain (toString n) :=
      ⟨Text.toString_ne_empty n, fun h => absurd (Text.isDigit_of_mem_toString h) (by decide),
        fun h => absurd (Text.isDigit_of_mem_toString h) (by decide)⟩
    exact .text (hplain _ hnumber) .nil

/-- The keys to sort by are legible. -/
theorem legible_sortTerms (s : Select) : Legible P s.sortTerms := by
  refine .joined (hplain _ (by decide)) (by decide) fun part hpart => ?_
  obtain ⟨term, -, rfl⟩ := List.mem_map.mp hpart
  exact legible_sortTerm hplain term

/-- What is selected is legible. -/
theorem legible_projectionTemplate (s : Select) : Legible P s.projectionTemplate := by
  have hcolumns : Legible P (if s.projection.isEmpty then [.text "*"]
      else joined ", " (s.projection.map fun name => [.name name])) := by
    split
    · exact .text (hplain _ (by decide)) .nil
    · refine .joined (hplain _ (by decide)) (by decide) fun part hpart => ?_
      obtain ⟨identifier, -, rfl⟩ := List.mem_map.mp hpart
      exact .name
  by_cases hempty : s.order.isEmpty
  · rwa [projectionTemplate, if_pos hempty, List.append_nil]
  · have hrank : Legible P [.text ") AS ", .name rank] := .text (hplain _ (by decide)) .name
    rw [projectionTemplate, if_neg hempty]
    exact hcolumns.append_text (by decide) (.text (hplain _ (by decide))
      ((legible_sortTerms hplain s).append_text (by decide) hrank))

/-- The rows of a selection are selected by a legible template if the texts with the types of
filtered columns are. -/
theorem legible_rows {s : Select} (hcast : ∀ pair ∈ s.filters, P (castEnd pair.1)) :
    Legible P s.rows := by
  have hrelation : Legible P (.text " FROM " :: relationName s.relation) :=
    .text (hplain _ (by decide)) (.name_text (.text (hplain _ (by decide)) .name))
  have hfilters : ∀ part ∈ s.filtersByFamily.map fun pair => filterTerm pair.1 pair.2,
      Legible P part := by
    intro part hpart
    obtain ⟨pair, hpair, rfl⟩ := List.mem_map.mp hpart
    exact legible_filterTerm hplain (hcast pair (mem_filters_of_mem_filtersByFamily hpair)) pair.2
  have hgroups : ∀ part ∈ s.groups.map groupTerm, Legible P part := by
    intro part hpart
    obtain ⟨grouping, -, rfl⟩ := List.mem_map.mp hpart
    exact legible_groupTerm hplain grouping
  have horder : ∀ part ∈ s.order.map sortTerm, Legible P part := by
    intro part hpart
    obtain ⟨term, -, rfl⟩ := List.mem_map.mp hpart
    exact legible_sortTerm hplain term
  have hselect : Legible P (.text "SELECT " :: s.projectionTemplate) :=
    .text (hplain _ (by decide)) (legible_projectionTemplate hplain s)
  rw [rows_eq_pairs]
  refine legible_append_countClause hplain (by decide) (by decide) ?_ s.offset
  refine legible_append_countClause hplain (by decide) (by decide) ?_ s.limit
  refine legible_append_clause hplain (by decide) (by decide) (by decide) (by decide) ?_ horder
  refine legible_append_clause hplain (by decide) (by decide) (by decide) (by decide) ?_ hgroups
  refine legible_append_clause hplain (by decide) (by decide) (by decide) (by decide) ?_ hfilters
  exact hselect.append_text (by decide) hrelation

/-- A selection is legible if the texts with the types of filtered columns are. -/
theorem legible_template {s : Select} (hcast : ∀ pair ∈ s.filters, P (castEnd pair.1)) :
    Legible P s.template := by
  have hrows := legible_rows hplain hcast
  rw [template]
  split
  · have hend : Legible P [.text ") AS q"] := .text (hplain _ (by decide)) .nil
    exact .append_text (.text (hplain _ (by decide)) hrows) (by decide) hend
  · have hend : Legible P [.text ") AS r"] := .text (hplain _ (by decide)) .nil
    have hcolumns : Legible P
        (joined ", " (s.outputColumns.map fun name => [.text "q.", .name name])) := by
      refine .joined (hplain _ (by decide)) (by decide) fun part hpart => ?_
      obtain ⟨identifier, -, rfl⟩ := List.mem_map.mp hpart
      exact .text (hplain _ (by decide)) .name
    have hfront : Legible P ([.text "SELECT coalesce(json_agg(row_to_json(r) ORDER BY q.",
        .name rank, .text "), '[]'::json) FROM ("] ++ s.rows) :=
      .text (hplain _ (by decide)) (.name_text (.text (hplain _ (by decide)) hrows))
    exact (hfront.append_text (by decide) (.text (hplain _ (by decide)) hcolumns)).append_text
      (by decide) hend

end Select

end RelationGateway.Sql
