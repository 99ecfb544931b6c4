import RelationGateway.Proofs.Sql.Legibility
import RelationGateway.Proofs.Sql.Building
import RelationGateway.Proofs.Sql.UniqueReading

/-!
# Names stay in their quotes

Whatever characters the names of a database hold, a reader of a statement finds each of them as it
is in the catalogue, and reads the same outside of names whatever the names are.

* `namesRead`, `outline`: the names that a reader finds, and what it reads besides;
* `Select.namesGiven`: the names that the steps of building a selection put into its statement;
* `Select.build_renamed`, `unnamed_template_renamed`: other names change nothing but the names;
* `Select.compile_quoted`: statements keep their names in quotes.
-/

namespace RelationGateway

/-! ## Other names -/

/-- The column under another name. -/
def Column.renamed (rename : String → String) (column : Column) : Column :=
  { column with name := rename column.name }

/-- The filter on the column under another name. -/
def Filter.renamed (rename : String → String) (f : Filter) : Filter :=
  { f with column := rename f.column }

/-- The relation under another name, with other names for its columns. -/
def Relation.renamed (name : QualifiedName) (rename : String → String) (r : Relation) : Relation :=
  { name, columns := r.columns.map (·.renamed rename) }

/-- The column to order by under another name. -/
def SortTerm.renamed (rename : String → String) (term : SortTerm) : SortTerm :=
  { term with column := rename term.column }

/-- The column to group by under another name. -/
def Grouping.renamed (rename : String → String) : Grouping → Grouping
  | .column name => .column (rename name)
  | .position n => .position n

namespace Sql

/-! ## What is read -/

/-- The name, if the lexeme is one. -/
def Lexeme.name? : Lexeme → Option String
  | .name identifier => some identifier
  | .char _ => none

/-- The character, if the lexeme stands outside of names. -/
def Lexeme.char? : Lexeme → Option Char
  | .char c => some c
  | .name _ => none

/-- The names that are read, in order. -/
def namesRead (lexemes : List Lexeme) : List String := lexemes.filterMap Lexeme.name?

/-- What is read outside of names, with a gap where a name stands. -/
def outline (lexemes : List Lexeme) : List (Option Char) := lexemes.map Lexeme.char?

/-- The name, if the token is one. -/
def Token.name? : Token → Option String
  | .name identifier => some identifier
  | _ => none

/-- The token, or an empty name in the place of a name. -/
def Token.unnamed : Token → Token
  | .name _ => .name ""
  | token => token

namespace Template

/-- The names in a template, in order. -/
def names (t : Template) : List String := t.filterMap Token.name?

/-- The template with an empty name in the place of each name. -/
def unnamed (t : Template) : Template := t.map Token.unnamed

theorem namesRead_lexemes (t : Template) (n : Nat) : namesRead (t.lexemes n) = t.names := by
  have hchars (s : List Char) : namesRead (s.map Lexeme.char) = [] := by
    simp [namesRead, Lexeme.name?]
  have happend (a b : List Lexeme) : namesRead (a ++ b) = namesRead a ++ namesRead b :=
    List.filterMap_append
  induction t generalizing n with
  | nil => rfl
  | cons token rest ih =>
    cases token with
    | text s =>
      rw [lexemes, happend, hchars, List.nil_append, ih]
      rfl
    | argument value =>
      rw [lexemes, happend, hchars, List.nil_append, ih]
      rfl
    | name identifier => exact congrArg (identifier :: ·) (ih n)

theorem outline_lexemes_unnamed (t : Template) (n : Nat) :
    outline (t.unnamed.lexemes n) = outline (t.lexemes n) := by
  have happend (a b : List Lexeme) : outline (a ++ b) = outline a ++ outline b := List.map_append
  -- Texts and numbers are read alike, and in the place of a name there is the same gap.
  induction t generalizing n with
  | nil => rfl
  | cons token rest ih =>
    cases token with
    | text s =>
      change outline (s.toList.map .char ++ lexemes n (unnamed rest)) = _
      rw [happend, ih, ← happend]
      rfl
    | argument value =>
      change outline (_ ++ lexemes (n + 1) (unnamed rest)) = _
      rw [happend, ih, ← happend]
      rfl
    | name identifier => exact congrArg (none :: ·) (ih n)

end Template

open Template

/-! ## The names in a statement -/

namespace Template

@[simp]
theorem names_nil : names [] = [] := rfl

@[simp]
theorem names_text (s : String) (t : Template) : names (.text s :: t) = names t := rfl

@[simp]
theorem names_name (identifier : String) (t : Template) :
    names (.name identifier :: t) = identifier :: names t := rfl

@[simp]
theorem names_argument (value : String) (t : Template) :
    names (.argument value :: t) = names t := rfl

@[simp]
theorem names_append (t u : Template) : names (t ++ u) = names t ++ names u :=
  List.filterMap_append

@[simp]
theorem names_joined (separator : String) (parts : List Template) :
    names (joined separator parts) = parts.flatMap names :=
  filterMap_joined (fun _ => rfl) separator parts

/-- Templates of which each has one name have these names one after the other. -/
theorem flatMap_names {α : Type} {part : α → Template} {name : α → String}
    (hpart : ∀ x, names (part x) = [name x]) (xs : List α) :
    (xs.map part).flatMap names = xs.map name := by
  rw [List.flatMap_map, List.map_eq_flatMap]
  exact congrArg (List.flatMap · xs) (funext hpart)

end Template

@[simp]
theorem names_clause (word separator : String) (parts : List Template) :
    names (Select.clause word separator parts) = parts.flatMap names :=
  filterMap_clause (fun _ => rfl) word separator parts

@[simp]
theorem names_countClause (word : String) (n : Option Nat) :
    names (Select.countClause word n) = [] := by
  cases n <;> rfl

/-- A filter names its column and nothing else. -/
theorem names_filterTerm (column : Column) (f : Filter) :
    names (filterTerm column f) = [column.name] := by
  have hcondition : names (condition column f.condition) = [column.name] := by
    cases f.condition with
    | among items => simp [condition, typed, List.flatMap_map]
    | _ => rfl
  rw [filterTerm, names_append, names_text, hcondition]
  rfl

theorem names_sortTerm (term : SortTerm) : names (Select.sortTerm term) = [term.column] := by
  obtain ⟨column, _ | direction⟩ := term <;> rfl

namespace Select

/-- The rows of a selection are selected by a template that names what is selected, what orders and
ranks the rows, the relation, and what filters, groups and orders them. -/
theorem names_rows (s : Select) :
    s.rows.names =
      s.projection ++ (if s.order.isEmpty then [] else s.order.map (·.column) ++ [rank]) ++
        [s.relation.name.schema, s.relation.name.name] ++ s.filtersByFamily.map (·.1.name) ++
        s.groups.flatMap (names ∘ groupTerm) ++ s.order.map (·.column) := by
  have hcolumns : names (if s.projection.isEmpty then [.text "*"]
      else joined ", " (s.projection.map fun name => [.name name])) = s.projection := by
    split
    next hempty =>
      rw [List.isEmpty_iff.mp hempty]
      rfl
    next =>
      rw [names_joined, flatMap_names (fun _ => rfl), List.map_id']
  have horder : (s.order.map sortTerm).flatMap names = s.order.map (·.column) :=
    flatMap_names names_sortTerm s.order
  have hprojection : s.projectionTemplate.names =
      s.projection ++ if s.order.isEmpty then [] else s.order.map (·.column) ++ [rank] := by
    rw [projectionTemplate, names_append, hcolumns]
    split
    · rfl
    · rw [List.cons_append, names_text, names_append, sortTerms, names_joined, horder]
      rfl
  have hfilters : (s.filtersByFamily.map fun pair => filterTerm pair.1 pair.2).flatMap names =
      s.filtersByFamily.map (·.1.name) :=
    flatMap_names (fun pair => names_filterTerm pair.1 pair.2) s.filtersByFamily
  simp [rows_eq_pairs, relationName, hprojection, hfilters, horder, List.flatMap_map,
    Function.comp_def]

/-- A selection that orders its rows also names the rank that they are gathered by and the columns
that are returned. -/
theorem names_template (s : Select) :
    s.template.names =
      if s.order.isEmpty then s.rows.names else rank :: s.rows.names ++ s.outputColumns := by
  rw [template]
  split
  · simp
  · have hcolumns : (s.outputColumns.map fun name => [.text "q.", Token.name name]).flatMap names =
        s.outputColumns := by
      rw [flatMap_names (fun _ => rfl), List.map_id']
    simp [hcolumns]

/-! ## The names that steps give -/

namespace Step

/-- The name of the column that a step selects. -/
def selected? : Step → Option String
  | .select column => some column.name
  | _ => none

/-- The name of the column that a step groups by. -/
def grouped? : Step → Option String
  | .groupByColumn column => some column.name
  | _ => none

/-- The name of the column that a step orders by. -/
def ordered? : Step → Option String
  | .orderBy column _ => some column.name
  | _ => none

/-- The step with the column under another name. -/
def renamed (rename : String → String) : Step → Step
  | .select column => .select (column.renamed rename)
  | .filter column f => .filter (column.renamed rename) (f.renamed rename)
  | .groupByColumn column => .groupByColumn (column.renamed rename)
  | .groupByPlace n => .groupByPlace n
  | .orderBy column direction => .orderBy (column.renamed rename) direction
  | .limit n => .limit n
  | .offset n => .offset n

theorem groups_apply (s : Select) (step : Step) :
    (step.apply s).groups.flatMap (names ∘ groupTerm) =
      s.groups.flatMap (names ∘ groupTerm) ++ step.grouped?.toList := by
  cases step with
  | select column => rw [apply, select_eq]; exact (List.append_nil _).symm
  | groupByColumn column => exact List.flatMap_append
  | groupByPlace n => exact List.flatMap_append
  | _ => exact (List.append_nil _).symm

theorem order_apply (s : Select) (step : Step) :
    (step.apply s).order.map (·.column) = s.order.map (·.column) ++ step.ordered?.toList := by
  cases step with
  | select column => rw [apply, select_eq]; exact (List.append_nil _).symm
  | orderBy column direction => exact List.map_append
  | _ => exact (List.append_nil _).symm

end Step

theorem build_concat (r : Relation) (front : List Step) (last : Step) :
    build r (front ++ [last]) = last.apply (build r front) := by
  rw [build, List.foldl_append]
  rfl

/-- The selected columns are those of the steps, each where it was selected first. -/
theorem projection_build (r : Relation) (steps : List Step) :
    (build r steps).projection = (steps.filterMap Step.selected?).eraseDups := by
  induction steps using List.reverseRecOn with
  | nil => rfl
  | append_singleton front last ih =>
    rw [build_concat, List.filterMap_append]
    cases last with
    | select column =>
      have hmem : column.name ∈ (build r front).projection ↔
          column.name ∈ front.filterMap Step.selected? := by rw [ih, List.mem_eraseDups]
      have hlast : [Step.select column].filterMap Step.selected? = [column.name] := rfl
      rw [Step.apply, Select.select, hlast, Accumulation.eraseDups_concat, ← ih]
      by_cases h : column.name ∈ front.filterMap Step.selected?
      · rw [if_pos (List.contains_iff_mem.mpr (hmem.mpr h)), if_pos h]
      · rw [if_neg (mt List.contains_iff_mem.mp (mt hmem.mp h)), if_neg h]
    | _ => exact ih.trans (congrArg _ (List.append_nil _).symm)

/-- The names in the statement of a selection that some steps build, in the order in which they
stand there. The rank is named only if rows are ordered, and then twice. -/
def namesGiven (r : Relation) (steps : List Step) : List String :=
  let selected := (steps.filterMap Step.selected?).eraseDups
  let filtered := (sortedByFamily (steps.filterMap Step.filter?)).map (·.1.name)
  let grouped := steps.filterMap Step.grouped?
  let ordered := steps.filterMap Step.ordered?
  let relation := [r.name.schema, r.name.name]
  if ordered.isEmpty then selected ++ relation ++ filtered ++ grouped
  else
    [rank] ++ selected ++ ordered ++ [rank] ++ relation ++ filtered ++ grouped ++ ordered ++
      if selected.isEmpty then r.columns.map (·.name) else selected

theorem relation_build (r : Relation) (steps : List Step) : (build r steps).relation = r := by
  induction steps using List.reverseRecOn with
  | nil => rfl
  | append_singleton front last ih =>
    rw [build_concat]
    cases last with
    | select column => rw [Step.apply, Step.select_eq]; exact ih
    | _ => exact ih

/-- The columns that rows are ordered by are those of the steps. -/
theorem order_build (r : Relation) (steps : List Step) :
    (build r steps).order.map (·.column) = steps.filterMap Step.ordered? :=
  Accumulation.foldl_collect (fun s : Select => s.order.map (·.column)) Step.ordered?
    Step.order_apply steps { relation := r }

theorem names_template_build (r : Relation) (steps : List Step) :
    (build r steps).template.names = namesGiven r steps := by
  have hgroups : (build r steps).groups.flatMap (names ∘ groupTerm) =
      steps.filterMap Step.grouped? :=
    Accumulation.foldl_collect (fun s : Select => s.groups.flatMap (names ∘ groupTerm))
      Step.grouped? Step.groups_apply steps { relation := r }
  have hempty : (build r steps).order.isEmpty = (steps.filterMap Step.ordered?).isEmpty := by
    rw [← order_build, List.isEmpty_map]
  rw [names_template, names_rows, outputColumns, order_build, hgroups, hempty, projection_build,
    filtersByFamily_eq, filters_build, relation_build, namesGiven]
  cases steps.filterMap Step.ordered? with
  | nil => simp
  | cons first rest => simp

/-! ## The same steps under other names -/

/-- The selection from a relation under another name, with other names for the columns. -/
def renamed (name : QualifiedName) (rename : String → String) (s : Select) : Select where
  relation := s.relation.renamed name rename
  projection := s.projection.map rename
  filters := s.filters.map fun (column, f) => (column.renamed rename, f.renamed rename)
  groups := s.groups.map (Grouping.renamed rename)
  order := s.order.map (SortTerm.renamed rename)
  limit := s.limit
  offset := s.offset

/-- The same steps under other names build the same selection under other names, as long as
selected columns that have different names keep different ones. -/
theorem build_renamed (r : Relation) (name : QualifiedName) {rename : String → String}
    {steps : List Step} (hrename : Set.InjOn rename {c | c ∈ steps.filterMap Step.selected?}) :
    build (r.renamed name rename) (steps.map (Step.renamed rename)) =
      (build r steps).renamed name rename := by
  induction steps using List.reverseRecOn with
  | nil => rfl
  | append_singleton front last ih =>
    have hfront : Set.InjOn rename {c | c ∈ front.filterMap Step.selected?} := by
      refine hrename.mono fun c hc => ?_
      change c ∈ (front ++ [last]).filterMap Step.selected?
      rw [List.filterMap_append]
      exact List.mem_append_left _ hc
    rw [List.map_append, List.map_singleton, build_concat, build_concat, ih hfront]
    cases last with
    | select column =>
      -- The column is selected already under the one name exactly if it is under the other.
      have hmem : rename column.name ∈ (build r front).projection.map rename ↔
          column.name ∈ (build r front).projection := by
        rw [projection_build]
        refine ⟨fun h => ?_, List.mem_map_of_mem⟩
        obtain ⟨c, hc, heq⟩ := List.mem_map.mp h
        have hc' : c ∈ front.filterMap Step.selected? := List.mem_eraseDups.mp hc
        have hsame : c = column.name := by
          refine hrename ?_ ?_ heq
          · change c ∈ (front ++ [Step.select column]).filterMap Step.selected?
            rw [List.filterMap_append]
            exact List.mem_append_left _ hc'
          · change column.name ∈ (front ++ [Step.select column]).filterMap Step.selected?
            rw [List.filterMap_append]
            exact List.mem_append_right _ List.mem_cons_self
        exact hsame ▸ hc
      by_cases h : column.name ∈ (build r front).projection
      · have h' := hmem.mpr h
        simp [Step.apply, Step.renamed, Select.select, renamed, Column.renamed, h, h']
      · have h' := mt hmem.mp h
        simp [Step.apply, Step.renamed, Select.select, renamed, Column.renamed, h, h']
    | _ => simp [Step.apply, Step.renamed, renamed, filter, groupBy, orderBy, withLimit,
        withOffset, Grouping.renamed, SortTerm.renamed, Column.renamed]

end Select

namespace Template

@[simp]
theorem unnamed_cons (token : Token) (t : Template) :
    unnamed (token :: t) = token.unnamed :: unnamed t := rfl

@[simp]
theorem unnamed_append (t u : Template) : unnamed (t ++ u) = unnamed t ++ unnamed u :=
  List.map_append

@[simp]
theorem unnamed_joined (separator : String) (parts : List Template) :
    unnamed (joined separator parts) = joined separator (parts.map unnamed) :=
  map_joined (fun _ => rfl) separator parts

end Template

@[simp]
theorem unnamed_clause (word separator : String) (parts : List Template) :
    unnamed (Select.clause word separator parts) =
      Select.clause word separator (parts.map unnamed) :=
  map_clause (fun _ => rfl) word separator parts

theorem unnamed_filterTerm_renamed (rename : String → String) (column : Column) (f : Filter) :
    unnamed (filterTerm (column.renamed rename) (f.renamed rename)) =
      unnamed (filterTerm column f) := by
  have hcondition (c : Condition) :
      unnamed (condition (column.renamed rename) c) = unnamed (condition column c) := by
    cases c <;> rfl
  rw [filterTerm, filterTerm, List.cons_append, List.cons_append, unnamed_cons, unnamed_cons,
    unnamed_append, unnamed_append]
  exact congrArg _ (congrArg (· ++ _) (hcondition f.condition))

theorem unnamed_sortTerm_renamed (rename : String → String) (term : SortTerm) :
    unnamed (Select.sortTerm (term.renamed rename)) = unnamed (Select.sortTerm term) := by
  obtain ⟨column, _ | direction⟩ := term <;> rfl

theorem unnamed_groupTerm_renamed (rename : String → String) (grouping : Grouping) :
    unnamed (Select.groupTerm (grouping.renamed rename)) = unnamed (Select.groupTerm grouping) := by
  cases grouping <;> rfl

/-- Parts that are the same but for names are so one by one. -/
theorem map_unnamed_map {α : Type} (part : α → Template) {f : α → α}
    (hpart : ∀ x, unnamed (part (f x)) = unnamed (part x)) (xs : List α) :
    ((xs.map f).map part).map unnamed = (xs.map part).map unnamed := by
  simp only [List.map_map, Function.comp_def, hpart]

namespace Select

variable (s : Select) (name : QualifiedName) (rename : String → String)

theorem filtersByFamily_renamed :
    (s.renamed name rename).filtersByFamily =
      s.filtersByFamily.map fun (column, f) => (column.renamed rename, f.renamed rename) := by
  simp only [filtersByFamily, renamed, List.map_flatMap, List.filter_map, Function.comp_def,
    Filter.renamed]

theorem unnamed_projectionTemplate_renamed :
    (s.renamed name rename).projectionTemplate.unnamed = s.projectionTemplate.unnamed := by
  have hcolumns := map_unnamed_map (fun c => [Token.name c]) (f := rename)
    (fun _ => rfl) s.projection
  have horder := map_unnamed_map _ (unnamed_sortTerm_renamed rename) s.order
  simp only [projectionTemplate, sortTerms, renamed, List.isEmpty_map, unnamed_append]
  congr 1
  · split
    · rfl
    · rw [unnamed_joined, unnamed_joined, hcolumns]
  · split
    · rfl
    · simp only [List.cons_append, unnamed_cons, unnamed_append, unnamed_joined, horder]

theorem unnamed_rows_renamed : (s.renamed name rename).rows.unnamed = s.rows.unnamed := by
  have hfilters : ((s.renamed name rename).filtersByFamily.map
      fun pair => filterTerm pair.1 pair.2).map unnamed =
        (s.filtersByFamily.map fun pair => filterTerm pair.1 pair.2).map unnamed := by
    rw [filtersByFamily_renamed]
    exact map_unnamed_map _
      (fun pair : Column × Filter => unnamed_filterTerm_renamed rename pair.1 pair.2) _
  have hgroups := map_unnamed_map _ (unnamed_groupTerm_renamed rename) s.groups
  have horder := map_unnamed_map _ (unnamed_sortTerm_renamed rename) s.order
  simp only [rows_eq_pairs, unnamed_append, unnamed_cons, unnamed_clause, hfilters,
    unnamed_projectionTemplate_renamed]
  simp only [renamed, hgroups, horder]
  rfl

/-- Under other names a selection has the same statement but for the names. -/
theorem unnamed_template_renamed :
    (s.renamed name rename).template.unnamed = s.template.unnamed := by
  have horder : (s.renamed name rename).order.isEmpty = s.order.isEmpty := List.isEmpty_map
  rw [template, template, horder]
  split
  · simp only [unnamed_append, unnamed_cons, unnamed_rows_renamed]
  · have hcolumns : (s.renamed name rename).outputColumns = s.outputColumns.map rename := by
      simp only [outputColumns, renamed, Relation.renamed, List.isEmpty_map]
      split
      · simp [Function.comp_def, Column.renamed]
      · rfl
    have hparts := map_unnamed_map (fun c => [.text "q.", Token.name c]) (f := rename)
      (fun _ => rfl) s.outputColumns
    simp only [unnamed_append, unnamed_cons, unnamed_rows_renamed, unnamed_joined, hcolumns, hparts]

end Select

/-! ## Statements -/

/-- Names in quotes are different if the names are. -/
theorem quote_injective : Function.Injective quote := by
  intro a b h
  have hlists : (quote a).toList ++ [] = (quote b).toList ++ [] := by rw [h]
  exact (quote_append_inj (by simp) (by simp) hlists).1

/-- The name of a relation tells its schema and its name in the schema. -/
theorem write_relationName_inj {r r' : Relation}
    (h : (relationName r).write 1 = (relationName r').write 1) : r.name = r'.name := by
  have hwrite (r : Relation) : ((relationName r).write 1).toList =
      (quote r.name.schema).toList ++ ('.' :: ((quote r.name.name).toList ++ [])) := by
    simp [relationName, write]
  have hlists := congrArg String.toList h
  rw [hwrite, hwrite] at hlists
  -- Behind the schema stands a dot, so no quote follows that could belong to it.
  obtain ⟨hschema, hrest⟩ := quote_append_inj (by simp) (by simp) hlists
  obtain ⟨hname, -⟩ := quote_append_inj (by simp) (by simp) (List.cons.inj hrest).2
  obtain ⟨⟨schema, name⟩, columns⟩ := r
  exact congrArg₂ QualifiedName.mk hschema hname

/-- The statement does not end in a name. Its names are the given ones in order, and the given
outline is left of it without them. -/
def Reads (sql : String) (names : List String) (outside : List (Option Char)) : Prop :=
  ∃ lexemes, lexemes? sql = some lexemes ∧ namesRead lexemes = names ∧ outline lexemes = outside

/-- Templates that are the same but for names are read with their own names and one outline. -/
theorem exists_reads {t u : Template} (ht : Legible Unquoted t) (hu : Legible Unquoted u)
    (h : t.unnamed = u.unnamed) :
    ∃ outside, Reads (t.write 1) t.names outside ∧ Reads (u.write 1) u.names outside := by
  refine ⟨outline (t.unnamed.lexemes 1), ?_, ?_⟩
  · exact ⟨t.lexemes 1, lexemesFrom_write ht 1, namesRead_lexemes t 1,
      (outline_lexemes_unnamed t 1).symm⟩
  · rw [h]
    exact ⟨u.lexemes 1, lexemesFrom_write hu 1, namesRead_lexemes u 1,
      (outline_lexemes_unnamed u 1).symm⟩

/-- The text behind a value that is cast to a type without quotes holds none. -/
theorem unquoted_castEnd {column : Column} (h : '"' ∉ column.type.toList) :
    Unquoted (castEnd column) := by
  simp [Unquoted, castEnd, h]

/-- The selection that some steps build is legible if the filtered columns have types without
quotes. -/
theorem Select.legible_template_build {r : Relation} {steps : List Select.Step}
    (hsteps : ∀ column f, Step.filter column f ∈ steps → '"' ∉ column.type.toList) :
    Legible Unquoted (build r steps).template := by
  refine legible_template (fun _ => Plain.unquoted) fun pair hpair => unquoted_castEnd ?_
  rw [filters_build] at hpair
  obtain ⟨step, hstep, hpair⟩ := List.mem_filterMap.mp hpair
  cases step with
  | filter column f => exact Option.some.inj hpair ▸ hsteps column f hstep
  | _ => cases hpair

/-- Whatever the names of a relation and of its columns are, as long as the types of filtered
columns and of the key hold no quotes, a statement does not end in a name, its names are those that
were given, in their places, and it is the same outside of them under other names. So names in
quotes tell the names, and a column is selected twice exactly if it is in quotes. -/
theorem Select.compile_quoted (r : Relation) (steps : List Step)
    (hsteps : ∀ column f, Step.filter column f ∈ steps → '"' ∉ column.type.toList)
    (keyColumn : Column) (hkey : '"' ∉ keyColumn.type.toList) (key : String)
    (name : QualifiedName) (rename : String → String)
    (hrename : Set.InjOn rename {c | c ∈ steps.filterMap Step.selected?}) :
    let r' := r.renamed name rename
    let steps' := steps.map (Step.renamed rename)
    (∃ outside, Reads (build r steps).compile.sql (namesGiven r steps) outside ∧
      Reads (build r' steps').compile.sql (namesGiven r' steps') outside) ∧
    (∃ outside,
      Reads (lookup r keyColumn key).sql [r.name.schema, r.name.name, keyColumn.name] outside ∧
      Reads (lookup r' (keyColumn.renamed rename) key).sql
        [name.schema, name.name, rename keyColumn.name] outside) ∧
    Function.Injective quote ∧
    (∀ a b : Relation, (relationName a).write 1 = (relationName b).write 1 → a.name = b.name) ∧
    (build r steps).projection = (steps.filterMap Step.selected?).eraseDups ∧
    (build r steps).projection.map quote =
      ((steps.filterMap Step.selected?).map quote).eraseDups := by
  intro r' steps'
  have hsteps' : ∀ column f, Step.filter column f ∈ steps' → '"' ∉ column.type.toList := by
    intro column f hmem
    obtain ⟨step, hstep, heq⟩ := List.mem_map.mp hmem
    cases step with
    | filter column' f' =>
      obtain ⟨rfl, -⟩ := Step.filter.inj heq
      exact hsteps column' f' hstep
    | _ => cases heq
  have hlegible (r : Relation) (column : Column) (hcolumn : '"' ∉ column.type.toList) :
      Legible Unquoted (lookupTemplate r column key) :=
    legible_lookupTemplate (fun _ h => ⟨h.1, h.2.1⟩) (unquoted_castEnd hcolumn) r key
  refine ⟨?_, ?_, quote_injective, fun _ _ => write_relationName_inj, projection_build r steps, ?_⟩
  · have hunnamed : (build r steps).template.unnamed = (build r' steps').template.unnamed := by
      rw [build_renamed r name hrename, unnamed_template_renamed]
    have hreads := exists_reads (legible_template_build hsteps) (legible_template_build hsteps')
      hunnamed
    rwa [names_template_build, names_template_build] at hreads
  · have hunnamed : (lookupTemplate r keyColumn key).unnamed =
        (lookupTemplate r' (keyColumn.renamed rename) key).unnamed := rfl
    exact exists_reads (hlegible r keyColumn hkey)
      (hlegible r' (keyColumn.renamed rename) hkey) hunnamed
  · rw [projection_build, Accumulation.eraseDups_map_of_injOn quote_injective.injOn]

/-- A column whose name ends in a quote. -/
def quoteLast : Column := { name := "x\"", type := "text" }

/-- A column whose name begins with a quote. -/
def quoteFirst : Column := { name := "\"x", type := "integer" }

/-- A relation whose schema looks like two names with a dot between. -/
def dotted : Relation := { name := ⟨"a\".\"b", "c"⟩, columns := [quoteLast, quoteFirst] }

/-- Steps that select a column twice and order by one whose name begins with a quote. -/
def repeatedSteps : List Select.Step :=
  [.select quoteLast, .select quoteFirst, .select quoteLast,
    .filter quoteLast ⟨"x\"", false, .is .null⟩, .orderBy quoteFirst none]

/-- The quotes in the names neither end a name nor join two of them, and the text around them stays
the same when all quotes are taken out of the names and the schema looks like one name. -/
theorem Select.compile_quoted_dotted :
    let rename (name : String) := if name = "x\"" then "p" else "q"
    let plain := dotted.renamed ⟨"s", "t"⟩ rename
    ∃ outside,
      Reads (build dotted repeatedSteps).compile.sql
        ["__pgbridge_rn", "x\"", "\"x", "\"x", "__pgbridge_rn", "a\".\"b", "c", "x\"", "\"x", "x\"",
          "\"x"] outside ∧
      Reads (build plain (repeatedSteps.map (Step.renamed rename))).compile.sql
        ["__pgbridge_rn", "p", "q", "q", "__pgbridge_rn", "s", "t", "p", "q", "p", "q"] outside := by
  intro rename plain
  have hsteps : ∀ column f, Step.filter column f ∈ repeatedSteps → '"' ∉ column.type.toList := by
    rintro column f hstep
    simp only [repeatedSteps, List.mem_cons, reduceCtorEq, Step.filter.injEq, List.not_mem_nil,
      or_false, false_or] at hstep
    obtain ⟨rfl, -⟩ := hstep
    decide
  have hrename : Set.InjOn rename {c | c ∈ repeatedSteps.filterMap Step.selected?} := by
    have hselected : repeatedSteps.filterMap Step.selected? = ["x\"", "\"x", "x\""] := rfl
    rw [hselected]
    rintro a ha b hb
    simp only [Set.mem_ofPred_eq, List.mem_cons, List.not_mem_nil, or_false] at ha hb
    rcases ha with rfl | rfl | rfl <;> rcases hb with rfl | rfl | rfl <;> simp [rename]
  obtain ⟨hreads, -⟩ := compile_quoted dotted repeatedSteps hsteps quoteLast (by decide) "k"
    ⟨"s", "t"⟩ rename hrename
  have hnames : namesGiven dotted repeatedSteps =
      ["__pgbridge_rn", "x\"", "\"x", "\"x", "__pgbridge_rn", "a\".\"b", "c", "x\"", "\"x", "x\"",
        "\"x"] := by
    rw [← names_template_build]
    rfl
  have hplain : namesGiven plain (repeatedSteps.map (Step.renamed rename)) =
      ["__pgbridge_rn", "p", "q", "q", "__pgbridge_rn", "s", "t", "p", "q", "p", "q"] := by
    rw [← names_template_build]
    decide +kernel
  rw [hnames, hplain] at hreads
  exact hreads

end RelationGateway.Sql
