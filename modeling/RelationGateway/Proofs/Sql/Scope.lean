import RelationGateway.Proofs.Sql.Clauses
import RelationGateway.Proofs.Sql.Injectivity
import RelationGateway.Proofs.Sql.Quoting

/-!
# What references stand for

The statement of ordered rows gathers them by their rank, and returns its columns one by one. Each
of these references is to a column of the inner statement, and stands for one exactly if no other
column there has its name.

* `columnsText`, `rankText`, `Select.exists_innerText_eq`: the list of what the inner statement
  selects;
* `outputs?`: the names of the columns that a reader of such a list finds;
* `Resolves`, `resolves_append_rank`: names that stand for one column;
* `Select.exists_references_build`: the references in the statement of ordered rows, and which of
  them stand for one column.
-/

namespace RelationGateway.Sql

open Template Select

/-! ## The list of what is selected -/

/-- The text of the selected columns, or a star for all. -/
def columnsText (names : List String) : String :=
  if names.isEmpty then "*" else String.intercalate ", " (names.map quote)

/-- The text of the rank of ordered rows, or nothing if they are not ordered. -/
def rankText (terms : List SortTerm) : String :=
  if terms.isEmpty then ""
  else
    ", row_number() OVER (ORDER BY " ++ String.intercalate ", " (terms.map sortText) ++ ") AS " ++
      quote rank

theorem write_columnsTemplate (names : List String) (k : Nat) :
    (columnsTemplate names).write k = columnsText names := by
  have hname (name : String) (k : Nat) : write k [.name name] = quote name := by simp [write]
  unfold columnsTemplate columnsText
  split
  · rfl
  · exact write_joined hname (fun _ => rfl) ", " names k

theorem write_rankTemplate (terms : List SortTerm) (k : Nat) :
    (rankTemplate terms).write k = rankText terms := by
  unfold rankTemplate rankText
  split
  · rfl
  · simp [write_append, write, write_joined write_sortTerm arguments_sortTerm, String.append_assoc]

namespace Select

/-- The list of what is selected is the columns and then the rank. -/
theorem write_projectionTemplate (s : Select) (k : Nat) :
    s.projectionTemplate.write k = columnsText s.projection ++ rankText s.order := by
  rw [projectionTemplate_eq, write_append, write_columnsTemplate, write_rankTemplate]

/-- The inner statement ranks its rows behind the selected columns and orders them at its end. -/
theorem exists_innerText_eq (s : Select) :
    ∃ rest counts, s.innerText =
      "SELECT " ++ columnsText s.projection ++ rankText s.order ++ " FROM " ++ rest ++
        orderText s.order ++ counts := by
  obtain ⟨t, ht⟩ : ∃ t : Template, s.rowsFront =
      .text "SELECT " :: (s.projectionTemplate ++ .text " FROM " :: t) :=
    ⟨_, by simp only [rowsFront, List.cons_append, List.append_assoc]; rfl⟩
  let k := (operands s.filtersByFamily).length + 1
  refine ⟨t.write 1,
    countText " LIMIT " k s.limit ++ countText " OFFSET " (k + s.limit.toList.length) s.offset, ?_⟩
  rw [innerText, ht, write, write_append, write_projectionTemplate]
  simp [write, String.append_assoc, k]

end Select

/-! ## The columns of a list -/

/-- The names of the columns that are read of a list, where some parentheses are open and the names
of an item have been read up to there. The name of an item is the last one that stands in it outside
of parentheses, and a star is all columns. -/
def outputsFrom (columns : List String) : (depth : Nat) → (item : List String) →
    List Lexeme → List String
  | _, item, [] => item
  | depth, item, .name name :: rest =>
    outputsFrom columns depth (if depth = 0 then [name] else item) rest
  | depth, item, .char c :: rest =>
    if c = '(' then outputsFrom columns (depth + 1) item rest
    else if c = ')' then outputsFrom columns (depth - 1) item rest
    else if depth = 0 ∧ c = ',' then item ++ outputsFrom columns depth [] rest
    else if depth = 0 ∧ c = '*' then outputsFrom columns depth columns rest
    else outputsFrom columns depth item rest

/-- The names of the columns of a statement that selects a list from a relation with some
columns. -/
def outputs? (columns : List String) (list : String) : Option (List String) :=
  (lexemes? list).map (outputsFrom columns 0 [])

example : outputs? ["a", "b"] "*, f(\"c\", \"d\") AS \"e\", q.\"g,h\"" =
    some ["a", "b", "e", "g,h"] := by decide

variable {columns names item : List String} {terms : List SortTerm} {n : Nat}

/-- Selected columns that something follows are read as their names. -/
theorem outputsFrom_names (h : names ≠ []) (rest : List Lexeme) :
    outputsFrom columns 0 item
        ((joined ", " (names.map fun name => [Token.name name])).lexemes n ++ .char ',' :: rest) =
      names ++ outputsFrom columns 0 [] rest := by
  induction names generalizing item with
  | nil => exact absurd rfl h
  | cons name more ih =>
    cases more with
    | nil => rfl
    | cons next more =>
      -- The comma ends the item with the first name, and the blank behind it changes nothing.
      have hmore := @ih [] (List.cons_ne_nil next more)
      rw [List.map_cons] at hmore
      rw [List.map_cons, List.map_cons, joined_cons_cons]
      exact congrArg (name :: ·) hmore

/-- Columns that something follows are read as the selected ones, or as all if there are none. -/
theorem outputsFrom_columns (rest : List Lexeme) :
    outputsFrom columns 0 item ((columnsTemplate names).lexemes n ++ .char ',' :: rest) =
      (if names.isEmpty then columns else names) ++ outputsFrom columns 0 [] rest := by
  cases names with
  | nil => rfl
  | cons name more => exact outputsFrom_names (List.cons_ne_nil name more) rest

/-- Keys to sort by are read past in parentheses. -/
theorem outputsFrom_sortTerms (rest : List Lexeme) :
    outputsFrom columns 1 item ((joined ", " (terms.map sortTerm)).lexemes n ++ rest) =
      outputsFrom columns 1 item rest := by
  have hterm (term : SortTerm) (rest : List Lexeme) :
      outputsFrom columns 1 item ((sortTerm term).lexemes n ++ rest) =
        outputsFrom columns 1 item rest := by
    obtain ⟨column, _ | direction⟩ := term
    · rfl
    · cases direction <;> rfl
  induction terms with
  | nil => rfl
  | cons term more ih =>
    cases more with
    | nil =>
      rw [List.map_cons, List.map_nil, joined_singleton]
      exact hterm term rest
    | cons next more =>
      rw [List.map_cons] at ih
      rw [List.map_cons, List.map_cons, joined_cons_cons, lexemes_append, arguments_sortTerm,
        List.append_assoc, hterm]
      exact ih

/-- Behind the columns the rank is read as one more. -/
theorem outputsFrom_projectionTemplate (columns : List String) {s : Select} (h : s.order ≠ []) :
    outputsFrom columns 0 [] (s.projectionTemplate.lexemes n) =
      (if s.projection.isEmpty then columns else s.projection) ++ [rank] := by
  have hempty : ¬ s.order.isEmpty := by simpa using h
  -- The rank is an item of its own behind the columns, with the keys to sort by in parentheses.
  have hranked (m : Nat) : (rankTemplate s.order).lexemes m =
      .char ',' :: (" row_number() OVER (ORDER BY ".toList.map .char ++
        ((joined ", " (s.order.map sortTerm)).lexemes m ++
          (") AS ".toList.map .char ++ [.name rank]))) := by
    rw [rankTemplate, if_neg hempty, List.cons_append, lexemes, lexemes_append]
    simp [lexemes]
  have hopening (rest : List Lexeme) :
      outputsFrom columns 0 [] (" row_number() OVER (ORDER BY ".toList.map .char ++ rest) =
        outputsFrom columns 1 [] rest := rfl
  have hclosing :
      outputsFrom columns 1 [] (") AS ".toList.map .char ++ [.name rank]) = [rank] := rfl
  rw [projectionTemplate_eq, lexemes_append, hranked, outputsFrom_columns, hopening,
    outputsFrom_sortTerms, hclosing]

/-! ## References -/

/-- The name stands for one of the columns: exactly one has it. -/
def Resolves (outputs : List String) (name : String) : Prop := outputs.count name = 1

instance (outputs : List String) (name : String) : Decidable (Resolves outputs name) :=
  inferInstanceAs (Decidable (_ = _))

/-- Among different columns and a rank, each name of a column but that of the rank stands for one
column, and the rank does exactly if no column has its name. -/
theorem resolves_append_rank (h : names.Nodup) :
    (∀ name ∈ names, name ≠ rank → Resolves (names ++ [rank]) name) ∧
      (Resolves (names ++ [rank]) rank ↔ rank ∉ names) := by
  constructor
  · intro name hname hne
    rw [Resolves, List.count_append, List.count_eq_one_of_mem h hname,
      List.count_eq_zero_of_not_mem (mt List.mem_singleton.mp hne)]
  · rw [Resolves, List.count_append, List.count_singleton_self, Nat.add_eq_right,
      List.count_eq_zero]

namespace Select

/-- The statement of ordered rows refers to the rank and to the columns that it returns. -/
theorem sql_compile_ordered {s : Select} (h : s.order ≠ []) :
    s.compile.sql =
      "SELECT coalesce(json_agg(row_to_json(r) ORDER BY q." ++ quote rank ++
        "), '[]'::json) FROM (" ++ s.innerText ++ ") AS q, LATERAL (SELECT " ++
        String.intercalate ", " (s.outputColumns.map fun name => "q." ++ quote name) ++
        ") AS r" := by
  have hempty : s.order.isEmpty = false := by simpa using h
  have hreference (name : String) (k : Nat) :
      write k [.text "q.", .name name] = "q." ++ quote name := by simp [write]
  rw [sql_compile, frameBack, hempty]
  simp [frameFront, write, write_append, write_joined hreference (fun _ => rfl),
    String.append_assoc]

/-- Behind the columns that are returned, the inner statement of ordered rows has the rank. -/
theorem outputs?_list {s : Select} (h : s.order ≠ []) :
    outputs? (s.relation.columns.map (·.name)) (columnsText s.projection ++ rankText s.order) =
      some (s.outputColumns ++ [rank]) := by
  have hlegible : Legible Unquoted s.projectionTemplate :=
    legible_projectionTemplate (fun _ => Plain.unquoted) s
  have hread := lexemesFrom_write hlegible 1
  rw [write_projectionTemplate] at hread
  rw [outputs?, lexemes?, hread, Option.map_some, outputsFrom_projectionTemplate _ h]
  rfl

theorem nodup_outputColumns {s : Select} (hcolumns : (s.relation.columns.map (·.name)).Nodup)
    (hprojection : s.projection.Nodup) : s.outputColumns.Nodup := by
  unfold outputColumns
  split
  · exact hcolumns
  · exact hprojection

/-- The statement of ordered rows from a relation whose columns have different names refers to the
rank and to each column that it returns, which are the selected ones, each once, or all if none is
selected. Among the columns that a reader finds in the inner statement, exactly one has the name of
each of them other than that of the rank. Exactly one has that of the rank, too, if and only if no
column that is returned has it. -/
theorem exists_references_build {r : Relation} (hdistinct : (r.columns.map (·.name)).Nodup)
    {steps : List Step} (hordered : steps.filterMap Step.ordered? ≠ []) :
    let selected := (steps.filterMap Step.selected?).eraseDups
    let returned := if selected.isEmpty then r.columns.map (·.name) else selected
    let list := columnsText selected ++ rankText (build r steps).order
    ∃ rest outputs,
      (build r steps).compile.sql =
        "SELECT coalesce(json_agg(row_to_json(r) ORDER BY q." ++ quote rank ++
          "), '[]'::json) FROM (" ++ ("SELECT " ++ list ++ " FROM " ++ rest) ++
          ") AS q, LATERAL (SELECT " ++
          String.intercalate ", " (returned.map fun name => "q." ++ quote name) ++ ") AS r" ∧
      outputs? (r.columns.map (·.name)) list = some outputs ∧
      (∀ name ∈ returned, name ≠ rank → Resolves outputs name) ∧
      (Resolves outputs rank ↔ rank ∉ returned) := by
  intro selected returned list
  have horder : (build r steps).order ≠ [] := by
    rw [← order_build r steps] at hordered
    exact mt (congrArg (List.map _)) hordered
  have hprojection : (build r steps).projection = selected := projection_build r steps
  have hreturned : (build r steps).outputColumns = returned := by
    rw [outputColumns, hprojection, relation_build]
  obtain ⟨rest, counts, hinner⟩ := exists_innerText_eq (build r steps)
  have houtputs := outputs?_list horder
  rw [relation_build, hprojection, hreturned] at houtputs
  -- Whatever is selected twice is returned once, and without selected columns the catalogue counts.
  have hnodup : returned.Nodup := by
    rw [← hreturned]
    refine nodup_outputColumns ?_ ?_
    · rwa [relation_build]
    · rw [projection_build]
      exact Accumulation.nodup_eraseDups _
  refine ⟨rest ++ orderText (build r steps).order ++ counts, returned ++ [rank], ?_, houtputs,
    resolves_append_rank hnodup⟩
  rw [sql_compile_ordered horder, hinner, hprojection, hreturned]
  simp only [list, String.append_assoc]

/-- A relation of which one column has the name of the rank. -/
def ranked : Relation :=
  { name := ⟨"public", "items"⟩
    columns := [{ name := "id", type := "integer", inPrimaryKey := true },
      { name := "tag", type := "text" }, { name := rank, type := "integer" }] }

/-- Where the column with the name of the rank is not selected, all references stand for one column,
although the rows are ordered by it and another column is selected twice. -/
theorem exists_references_build_ranked :
    let tag : Column := { name := "tag", type := "text" }
    let steps : List Step := [.select tag, .orderBy { name := rank, type := "integer" } none,
      .select { name := "id", type := "integer", inPrimaryKey := true }, .select tag]
    let list := "\"tag\", \"id\", row_number() OVER (ORDER BY \"__pgbridge_rn\") AS " ++
      "\"__pgbridge_rn\""
    ∃ rest outputs,
      (build ranked steps).compile.sql =
        "SELECT coalesce(json_agg(row_to_json(r) ORDER BY q." ++ quote rank ++
          "), '[]'::json) FROM (" ++ ("SELECT " ++ list ++ " FROM " ++ rest) ++
          ") AS q, LATERAL (SELECT " ++ "q.\"tag\", q.\"id\"" ++ ") AS r" ∧
      outputs? (ranked.columns.map (·.name)) list = some outputs ∧
      Resolves outputs "tag" ∧ Resolves outputs "id" ∧ Resolves outputs rank := by
  intro tag steps list
  have hordered : steps.filterMap Step.ordered? ≠ [] := by decide
  have hselected : (steps.filterMap Step.selected?).eraseDups = ["tag", "id"] := by decide
  have hlist : columnsText ["tag", "id"] ++ rankText (build ranked steps).order = list := by
    decide +kernel
  have hreferences : String.intercalate ", " (["tag", "id"].map fun name => "q." ++ quote name) =
      "q.\"tag\", q.\"id\"" := by decide +kernel
  obtain ⟨rest, outputs, hsql, houtputs, hreturned, hrank⟩ :=
    exists_references_build (r := ranked) (by decide) hordered
  rw [hselected] at hsql houtputs hreturned hrank
  simp only [List.isEmpty_cons, Bool.false_eq_true, if_false] at hsql hreturned hrank
  rw [hlist, hreferences] at hsql
  rw [hlist] at houtputs
  exact ⟨rest, outputs, hsql, houtputs, hreturned "tag" (by decide) (by decide),
    hreturned "id" (by decide) (by decide), hrank.mpr (by decide)⟩

/-- Where all columns are selected, the rank and the column with its name are confused: the inner
statement has two columns of the name that the outer one refers to, and the name is among those that
are returned. -/
theorem not_resolves_rank :
    let names := ranked.columns.map (·.name)
    let outputs := ["id", "tag", rank, rank]
    names.Nodup ∧
      (build ranked [.orderBy { name := "tag", type := "text" } none]).compile.sql =
        "SELECT coalesce(json_agg(row_to_json(r) ORDER BY q.\"__pgbridge_rn\"), '[]'::json) FROM (" ++
          ("SELECT *, row_number() OVER (ORDER BY \"tag\") AS \"__pgbridge_rn\" FROM " ++
            "\"public\".\"items\" ORDER BY \"tag\"") ++
          ") AS q, LATERAL (SELECT q.\"id\", q.\"tag\", q.\"__pgbridge_rn\") AS r" ∧
      outputs? names "*, row_number() OVER (ORDER BY \"tag\") AS \"__pgbridge_rn\"" =
        some outputs ∧
      ¬ Resolves outputs rank := by
  decide +kernel

end Select

end RelationGateway.Sql
