import RelationGateway.Proofs.Sql.Building
import RelationGateway.Proofs.Sql.Legibility

/-!
# Placeholders and parameters

The placeholders of a statement are numbered in the order in which it is read, and each stands in
the condition whose operand is the parameter of its number.

* `filterText`, `write_filterTerm`: how a filter is written;
* `Select.exists_template_eq`: where a filter stands in the template of its selection;
* `Select.compile_aligned`: what the placeholders and parameters of a statement are, and where the
  placeholders stand.
-/

namespace RelationGateway.Sql

open Template

/-! ## Texts of filters -/

/-- The placeholder with number `n`, cast to the type of a column. -/
def castText (n : Nat) (column : Column) : String :=
  "CAST($" ++ toString n ++ "::text AS " ++ column.type ++ ")"

/-- The text of a condition on a column whose first operand has number `n`. -/
def conditionText (n : Nat) (column : Column) : Condition → String
  | .compare comparison _ =>
    quote column.name ++ " " ++ comparison.sign ++ " " ++ castText n column
  | .matches matching _ =>
    quote column.name ++ "::text " ++ matching.word ++ " $" ++ toString n
  | .is constant => quote column.name ++ " IS " ++ constant.word
  | .among items =>
    quote column.name ++ " IN (" ++ String.intercalate ", "
      ((List.range' n items.length).map fun i => castText i column) ++ ")"

/-- The text of a filter on a column whose first operand has number `n`. -/
def filterText (n : Nat) (column : Column) (f : Filter) : String :=
  (if f.negated then "NOT (" else "(") ++ conditionText n column f.condition ++ ")"

/-- A value that is cast is written as its placeholder. -/
theorem write_typed (n : Nat) (value : String) (column : Column) :
    (typed value column).write n = castText n column := by
  have hdollar (s : String) : "CAST(" ++ ("$" ++ s) = "CAST($" ++ s := by
    rw [← String.append_assoc]
    rfl
  simp [typed, write, castText, String.append_assoc, hdollar]

/-- Values that are cast are written with numbers one after the other. -/
theorem write_joined_typed (n : Nat) (items : List String) (column : Column) :
    write n (joined ", " (items.map fun item => typed item column)) =
      String.intercalate ", " ((List.range' n items.length).map fun i => castText i column) := by
  induction items generalizing n with
  | nil => rfl
  | cons item rest ih =>
    cases rest with
    | nil => simp [joined, write_typed]
    | cons next rest =>
      have hfirst : (typed item column).arguments.length = 1 := rfl
      have hrest := ih (n + 1)
      rw [List.map_cons] at hrest
      rw [List.map_cons, List.map_cons, joined_cons_cons, write_append, write_typed, write, hfirst,
        hrest]
      simp [List.range'_succ, String.append_assoc]

/-- A filter is written as its text. -/
theorem write_filterTerm (n : Nat) (column : Column) (f : Filter) :
    (filterTerm column f).write n = filterText n column f := by
  have hcondition : (condition column f.condition).write n = conditionText n column f.condition := by
    cases f.condition with
    | compare comparison operand =>
      simp [condition, conditionText, write, write_typed, String.append_assoc]
    | «matches» matching pattern =>
      have hdollar (s : String) : " " ++ ("$" ++ s) = " $" ++ s := by
        rw [← String.append_assoc]
        rfl
      simp [condition, conditionText, write, String.append_assoc, hdollar]
    | is constant => simp [condition, conditionText, write, String.append_assoc]
    | among items =>
      simp [condition, conditionText, write_append, write, write_joined_typed, String.append_assoc]
  rw [filterTerm, List.cons_append, write, write_append, hcondition, filterText]
  simp [write, String.append_assoc]

/-! ## Filters in their statement -/

/-- A part of joined templates stands behind the arguments of those in front of it. -/
theorem exists_joined_eq (separator : String) (front : List Template) (part : Template)
    (back : List Template) :
    ∃ t u, joined separator (front ++ part :: back) = t ++ (part ++ u) ∧
      t.arguments = front.flatMap arguments := by
  induction front with
  | nil =>
    cases back with
    | nil => exact ⟨[], [], by simp [joined], rfl⟩
    | cons next rest =>
      exact ⟨[], .text separator :: joined separator (next :: rest), joined_cons_cons .., rfl⟩
  | cons first rest ih =>
    obtain ⟨t, u, heq, harguments⟩ := ih
    obtain ⟨next, more, hnext⟩ := List.exists_cons_of_ne_nil
      (List.append_ne_nil_of_right_ne_nil rest (List.cons_ne_nil part back))
    refine ⟨first ++ .text separator :: t, u, ?_, by simp [harguments]⟩
    rw [List.cons_append, hnext, joined_cons_cons, ← hnext, heq, List.append_assoc]
    rfl

namespace Select

/-- A filter stands in the rows of its selection behind the literals of the filters in front of
it. -/
theorem exists_rows_eq {s : Select} {front back : List (Column × Filter)} {column : Column}
    {f : Filter} (hsplit : s.filtersByFamily = front ++ (column, f) :: back) :
    ∃ t u, s.rows = t ++ (filterTerm column f ++ u) ∧ t.arguments = operands front := by
  obtain ⟨t, u, heq, harguments⟩ := exists_joined_eq " AND "
    (front.map fun pair => filterTerm pair.1 pair.2) (filterTerm column f)
    (back.map fun pair => filterTerm pair.1 pair.2)
  have hclause : clause " WHERE " " AND " (s.filtersByFamily.map fun pair =>
      filterTerm pair.1 pair.2) = .text " WHERE " :: t ++ (filterTerm column f ++ u) := by
    rw [hsplit, List.map_append, List.map_cons, clause, if_neg (by simp), heq]
    rfl
  refine ⟨.text "SELECT " :: s.projectionTemplate ++ .text " FROM " :: relationName s.relation ++
    .text " WHERE " :: t, u ++ clause " GROUP BY " ", " (s.groups.map groupTerm) ++
      clause " ORDER BY " ", " (s.order.map sortTerm) ++
      countClause " LIMIT " s.limit ++ countClause " OFFSET " s.offset, ?_, ?_⟩
  · simp [rows_eq_pairs, hclause]
  · simp [harguments, operands, relationName, List.flatMap_map]

/-- A filter stands in the template of its selection behind the literals of the filters in front
of it. -/
theorem exists_template_eq {s : Select} {front back : List (Column × Filter)} {column : Column}
    {f : Filter} (hsplit : s.filtersByFamily = front ++ (column, f) :: back) :
    ∃ t u, s.template = t ++ (filterTerm column f ++ u) ∧ t.arguments = operands front := by
  obtain ⟨t, u, hrows, harguments⟩ := exists_rows_eq hsplit
  refine ⟨frameFront s.order.isEmpty ++ t, u ++ s.frameBack, ?_, ?_⟩
  · rw [template_eq_frame, hrows]
    simp only [List.append_assoc]
  · rw [arguments_append, arguments_frameFront, harguments, List.nil_append]

end Select

/-! ## Statements whose types are plain -/

/-- The placeholders with the first numbers. -/
def firstPlaceholders (n : Nat) : List String := (List.range n).map fun i => "$" ++ toString (i + 1)

/-- The type of the column holds neither dollar signs nor quotes. -/
def HasPlainType (column : Column) : Prop :=
  '$' ∉ column.type.toList ∧ '"' ∉ column.type.toList

instance (column : Column) : Decidable (HasPlainType column) := inferInstanceAs (Decidable (_ ∧ _))

/-- The text behind a value that is cast to a plain type is plain. -/
theorem plain_castEnd {column : Column} (h : HasPlainType column) : Plain (castEnd column) := by
  obtain ⟨hdollar, hquote⟩ := h
  simp [Plain, castEnd, hdollar, hquote]

/-- The placeholders of a written template whose first argument has number one. -/
theorem Template.placeholders?_write_one {t : Template} (h : Legible Plain t) :
    placeholders? (t.write 1) = some (firstPlaceholders t.arguments.length) := by
  rw [placeholders?_write h, List.range'_eq_map_range, List.map_map, firstPlaceholders]
  congr 2
  funext i
  rw [Function.comp_apply, Nat.add_comm]

/-- A filter stands in the statement of its selection with the number behind that of the last
literal in front of it. -/
theorem Select.exists_compile_eq {s : Select} (hplain : ∀ pair ∈ s.filters, HasPlainType pair.1)
    {front back : List (Column × Filter)} {column : Column} {f : Filter}
    (hsplit : s.filtersByFamily = front ++ (column, f) :: back) :
    ∃ before after,
      s.compile.sql = before ++ filterText ((operands front).length + 1) column f ++ after ∧
        placeholders? before = some (firstPlaceholders (operands front).length) := by
  obtain ⟨t, u, heq, harguments⟩ := exists_template_eq hsplit
  have hlegible : Legible Plain s.template :=
    legible_template (fun _ h => h) fun pair hpair => plain_castEnd (hplain pair hpair)
  rw [heq] at hlegible
  have hfront := placeholders?_write_one hlegible.left
  rw [harguments] at hfront
  have hsql : s.compile.sql = (t ++ (filterTerm column f ++ u)).write 1 := congrArg (write 1) heq
  rw [write_append, write_append, write_filterTerm, harguments, Nat.add_comm 1] at hsql
  exact ⟨_, _, hsql.trans (String.append_assoc ..).symm, hfront⟩

/-- The key of a look-up stands behind the name of its column. -/
theorem exists_lookup_eq {column : Column} (hplain : HasPlainType column) (r : Relation)
    (key : String) :
    ∃ before, (lookup r column key).sql =
      before ++ quote column.name ++ " = " ++ castText 1 column ∧
        placeholders? before = some [] := by
  let front : Template :=
    .text "SELECT row_to_json(t) FROM " :: relationName r ++ [.text " AS t WHERE t."]
  have heq : lookupTemplate r column key =
      front ++ (.name column.name :: .text " = " :: typed key column) := by
    simp [lookupTemplate, front]
  have hlegible : Legible Plain (lookupTemplate r column key) :=
    legible_lookupTemplate (fun _ h => h) (plain_castEnd hplain) r key
  have harguments : front.arguments.length = 0 := rfl
  refine ⟨front.write 1, ?_, placeholders?_write_one (heq ▸ hlegible).left⟩
  rw [lookup_eq, Template.compile, heq, write_append, harguments, write, write, write_typed]
  simp only [String.append_assoc]

/-- In every selection and look-up whose filters are on columns of plain types, whatever the names
are, the placeholders are the first numbers in order, as many as there are parameters. The
parameters of a selection are the literals of its filters in the order of their families and then
the last numbers of rows that were set, and that of a look-up is its key. Each filter is written
with the numbers of its own literals. -/
theorem Select.compile_aligned (r : Relation) (steps : List Step)
    (hsteps : ∀ column f, Step.filter column f ∈ steps → HasPlainType column)
    (keyColumn : Column) (hkey : HasPlainType keyColumn) (key : String) :
    let sorted := sortedByFamily (steps.filterMap Step.filter?)
    let statement := (build r steps).compile
    let row := lookup r keyColumn key
    placeholders? statement.sql = some (firstPlaceholders statement.params.length) ∧
    statement.params = operands sorted ++
      ((steps.filterMap Step.limit?).getLast?.toList ++
        (steps.filterMap Step.offset?).getLast?.toList).map toString ∧
    (∀ front column f back, sorted = front ++ (column, f) :: back →
      f.condition.literals <+: statement.params.drop (operands front).length ∧
      ∃ before after,
        statement.sql = before ++ filterText ((operands front).length + 1) column f ++ after ∧
          placeholders? before = some (firstPlaceholders (operands front).length)) ∧
    placeholders? row.sql = some (firstPlaceholders row.params.length) ∧
    row.params = [key] ∧
    ∃ before, row.sql = before ++ quote keyColumn.name ++ " = " ++ castText 1 keyColumn ∧
      placeholders? before = some [] := by
  intro sorted statement row
  have hplain : ∀ pair ∈ (build r steps).filters, HasPlainType pair.1 := by
    intro pair hpair
    rw [filters_build] at hpair
    obtain ⟨step, hstep, hpair⟩ := List.mem_filterMap.mp hpair
    cases step with
    | filter column f => exact Option.some.inj hpair ▸ hsteps column f hstep
    | _ => cases hpair
  have hparams : statement.params = _ := params_build r steps
  have hlegible : Legible Plain (build r steps).template :=
    legible_template (fun _ h => h) fun pair hpair => plain_castEnd (hplain pair hpair)
  have hlookup : Legible Plain (lookupTemplate r keyColumn key) :=
    legible_lookupTemplate (fun _ h => h) (plain_castEnd hkey) r key
  refine ⟨placeholders?_write_one hlegible, hparams, ?_, placeholders?_write_one hlookup, rfl,
    exists_lookup_eq hkey r key⟩
  intro front column f back hsorted
  have hsplit : operands sorted =
      operands front ++ (f.condition.literals ++ operands back) := by
    simp [operands, hsorted]
  constructor
  · rw [hparams, hsplit, List.append_assoc, List.drop_left, List.append_assoc]
    exact List.prefix_append _ _
  · have hfilters : (build r steps).filtersByFamily = front ++ (column, f) :: back := by
      rw [filtersByFamily_eq, filters_build]
      exact hsorted
    exact exists_compile_eq hplain hfilters

/-- A column whose name holds a quote and what looks like a placeholder. -/
def oddColumn : Column := { name := "a\"$1", type := "integer", inPrimaryKey := true }

/-- A relation whose names hold quotes and dollar signs. -/
def oddRelation : Relation :=
  { name := ⟨"s$2", "\""⟩, columns := [oddColumn, { name := "b", type := "text" }] }

/-- Steps that add a membership before a match and set the limit twice. -/
def mixedSteps : List Select.Step :=
  [.filter oddColumn ⟨"a\"$1", false, .among ["1", "$9"]⟩, .limit 5, .orderBy oddColumn none,
    .filter { name := "b", type := "text" } ⟨"b", true, .matches .like "x%"⟩, .limit 7]

/-- The match takes the first number, although the membership was added first, and the dollar
signs in names and in the item do not count. -/
theorem Select.compile_aligned_oddRelation :
    let statement := (build oddRelation mixedSteps).compile
    let odd := quote "a\"$1"
    statement.params = ["x%", "1", "$9", "7"] ∧
    placeholders? statement.sql = some ["$1", "$2", "$3", "$4"] ∧
    (∃ before after, statement.sql = before ++
      ("(" ++ odd ++ " IN (CAST($2::text AS integer), CAST($3::text AS integer)))") ++ after) ∧
    placeholders? (lookup oddRelation oddColumn "$5").sql = some ["$1"] := by
  intro statement odd
  have hsteps : ∀ column f, Step.filter column f ∈ mixedSteps → HasPlainType column := by
    rintro column f hstep
    simp only [mixedSteps, List.mem_cons, reduceCtorEq, Step.filter.injEq, List.not_mem_nil,
      or_false, false_or] at hstep
    rcases hstep with ⟨rfl, -⟩ | ⟨rfl, -⟩ <;> decide
  obtain ⟨hsql, -, hfilter, hkey, -⟩ :=
    compile_aligned oddRelation mixedSteps hsteps oddColumn (by decide) "$5"
  have hparams : statement.params = ["x%", "1", "$9", "7"] := by decide
  rw [hparams] at hsql
  have hsorted : sortedByFamily (mixedSteps.filterMap Step.filter?) =
      [({ name := "b", type := "text" }, ⟨"b", true, .matches .like "x%"⟩)] ++
        (oddColumn, ⟨"a\"$1", false, .among ["1", "$9"]⟩) :: [] := by
    rw [← filters_build oddRelation, ← filtersByFamily_eq]
    rfl
  obtain ⟨-, before, after, hplace, -⟩ := hfilter _ _ _ _ hsorted
  exact ⟨hparams, hsql, ⟨before, after, hplace⟩, hkey⟩

end RelationGateway.Sql
