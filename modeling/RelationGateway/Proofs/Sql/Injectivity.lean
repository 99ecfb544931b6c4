import RelationGateway.Proofs.Sql.Building
import RelationGateway.Proofs.Sql.UniqueReading

/-!
# The statement tells the selection

Two selections from one relation, whose filters take the columns of a name from the same place,
have the same statement only if they select, filter, group, order and cut off alike.

* `splits_filterTerm`: the texts of filters tell them apart but for literals;
* `Select.Alike`, `Select.alike_of_sql_eq`: selections of one text are alike but for literals;
* `literals_append_inj`: filters that are alike but for literals and have the same literals are the
  same;
* `Select.compile_eq_iff`: selections have one statement exactly if they are the same.
-/

namespace RelationGateway

/-- A condition without what it is applied to. -/
def Condition.operator : Condition → Condition
  | .compare comparison _ => .compare comparison ""
  | .matches matching _ => .matches matching ""
  | .is constant => .is constant
  | .among _ => .among []

namespace Sql

open Template

/-! ## Conditions -/

/-- The text behind the name of the column in a condition. -/
def operatorText : Condition → String
  | .compare comparison _ => " " ++ comparison.sign ++ " "
  | .matches matching _ => "::text " ++ matching.word ++ " "
  | .is constant => " IS " ++ constant.word
  | .among _ => " IN ("

/-- What stands behind the operator of a condition. -/
def operandTemplate (column : Column) : Condition → Template
  | .compare _ operand => typed operand column
  | .matches _ pattern => [.argument pattern]
  | .is _ => []
  | .among items => joined ", " (items.map fun item => typed item column) ++ [.text ")"]

/-- A condition is a name, an operator and what stands behind it. -/
theorem condition_eq (column : Column) (c : Condition) :
    condition column c = .name column.name :: .text (operatorText c) :: operandTemplate column c := by
  cases c <;> rfl

/-- The conditions without what they are applied to. -/
def operators : List Condition :=
  [Comparison.eq, .neq, .lt, .gt, .lte, .gte].map (.compare · "") ++
    [Matching.like, .ilike].map (.matches · "") ++ [Constant.yes, .no, .null].map .is ++ [.among []]

theorem operator_mem_operators (c : Condition) : c.operator ∈ operators := by
  cases c with
  | compare comparison _ => cases comparison <;> simp [operators, Condition.operator]
  | «matches» matching _ => cases matching <;> simp [operators, Condition.operator]
  | is constant => cases constant <;> simp [operators, Condition.operator]
  | among _ => simp [operators, Condition.operator]

theorem operatorText_operator (c : Condition) : operatorText c.operator = operatorText c := by
  cases c <;> rfl

/-- The texts of different operators are apart. -/
theorem apart_operatorText {c d : Condition} (h : c.operator ≠ d.operator) :
    Apart (operatorText c) (operatorText d) := by
  have hall : ∀ c ∈ operators, ∀ d ∈ operators, c ≠ d → Apart (operatorText c) (operatorText d) := by
    decide
  rw [← operatorText_operator c, ← operatorText_operator d]
  exact hall _ (operator_mem_operators c) _ (operator_mem_operators d) h

/-- What stands behind one operator in conditions on one column tells them apart but for
literals. -/
theorem splits_operandTemplate {c d : Condition} (h : c.operator = d.operator) (column : Column)
    (ends : List String) :
    Splits ends (operandTemplate column c) (operandTemplate column d) (c.skeleton = d.skeleton) := by
  cases c with
  | compare comparison _ =>
    cases d <;> cases h
    exact .of_skeleton_eq rfl rfl
  | «matches» matching _ =>
    cases d <;> cases h
    exact .of_skeleton_eq rfl rfl
  | is constant =>
    cases d <;> cases h
    exact .of_skeleton_eq rfl rfl
  | among items =>
    cases d <;> cases h
    next items' =>
    let listed (items : List String) : Template :=
      joined ", " (items.map fun item => typed item column) ++ [.text ")"]
    have hclose : Begins [")"] ends [.text ")"] := .text (List.mem_singleton_self _)
    have hempty (item : String) (items : List String) :
        Splits ends (listed []) (listed (item :: items)) False := by
      obtain ⟨t, ht⟩ := exists_joined_cons ", " (typed item column)
        (items.map fun item => typed item column)
      have hcast : Begins ["CAST("] ends (listed (item :: items)) := by
        show Begins _ _ (joined ", " (_ :: _) ++ _)
        rw [ht]
        exact .text (List.mem_singleton_self _)
      exact .of_begins (by decide) hclose hcast
    -- Only the number of items is told: what is written of an item does not depend on it.
    have hboth (x : String) (xs : List String) (y : String) (ys : List String) :
        Splits ends (listed (x :: xs)) (listed (y :: ys))
          ((x :: xs).map (fun _ => "") = (y :: ys).map fun _ => "") := by
      have hjoined : Splits [")"] (joined ", " ((x :: xs).map fun item => typed item column))
          (joined ", " ((y :: ys).map fun item => typed item column))
          ((x :: xs).map (fun _ => "") = (y :: ys).map fun _ => "") :=
        .joined (fun _ _ => .of_skeleton_eq rfl rfl)
          (fun _ _ => .text (List.mem_singleton_self ", ")) (by decide) x xs y ys
      exact (hjoined.append (fun _ => .of_skeleton_eq rfl trivial) hclose hclose).imp And.left
    exact (Splits.of_lists hempty hboth items items').imp (congrArg Condition.among)

/-- Filters are told apart by their texts but for literals, if the column depends on its name
only. -/
theorem splits_filterTerm {columnOf : String → Column} (hname : ∀ name, (columnOf name).name = name)
    (ends : List String) (f g : Filter) :
    Splits ends (filterTerm (columnOf f.column) f) (filterTerm (columnOf g.column) g)
      (f.skeleton = g.skeleton) := by
  have hclose : Begins [")"] ends [.text ")"] := .text (List.mem_singleton_self _)
  have hoperator (f : Filter) (t : Template) : Begins (operators.map operatorText) ends
      (.text (operatorText f.condition) :: t) := by
    rw [← operatorText_operator]
    exact .text (List.mem_map_of_mem (operator_mem_operators _))
  -- Behind the same name the columns are the same, and with them their types.
  have hbehind (hcolumn : f.column = g.column) : Splits ends
      (.text (operatorText f.condition) ::
        (operandTemplate (columnOf f.column) f.condition ++ [.text ")"]))
      (.text (operatorText g.condition) ::
        (operandTemplate (columnOf g.column) g.condition ++ [.text ")"]))
      (f.condition.skeleton = g.condition.skeleton) := by
    by_cases hsame : f.condition.operator = g.condition.operator
    · have hoperand := (splits_operandTemplate hsame (columnOf g.column) [")"]).append
        (fun _ => .of_skeleton_eq rfl trivial) hclose hclose
      rw [hcolumn, ← operatorText_operator f.condition, hsame, operatorText_operator]
      exact (hoperand.imp And.left).text
    · exact .of_apart (apart_operatorText hsame)
  have hcolumn : Splits (operators.map operatorText) [.name f.column] [.name g.column]
      (f.column = g.column) := .name (by decide) f.column g.column
  have hterm := hcolumn.append hbehind (hoperator f _) (hoperator g _)
  have hcases (f : Filter) : filterTerm (columnOf f.column) f =
      .text (if f.negated then "NOT (" else "(") :: ([.name f.column] ++
        .text (operatorText f.condition) ::
          (operandTemplate (columnOf f.column) f.condition ++ [.text ")"])) := by
    simp [filterTerm, condition_eq, hname]
  rw [hcases, hcases]
  by_cases hnegated : f.negated = g.negated
  · rw [hnegated]
    refine (hterm.imp ?_).text
    rintro ⟨hcolumn, hskeleton⟩
    simp [Filter.skeleton, hcolumn, hnegated, hskeleton]
  · refine .of_apart ?_
    cases hf : f.negated <;> cases hg : g.negated
    · exact absurd (hf.trans hg.symm) hnegated
    · decide
    · decide
    · exact absurd (hf.trans hg.symm) hnegated

/-! ## What is selected, grouped and ordered -/

namespace Select

/-- The words that may stand behind the rows of a selection. -/
def behindRows : List String := [") AS q"]

/-- The words that may stand behind the limit. -/
def behindLimit : List String := " OFFSET " :: behindRows

/-- The words that may stand behind the ordering. -/
def behindOrder : List String := " LIMIT " :: behindLimit

/-- The words that may stand behind what rows are grouped by. -/
def behindGroups : List String := " ORDER BY " :: behindOrder

/-- The words that may stand behind the filters. -/
def behindFilters : List String := " GROUP BY " :: behindGroups

/-- The words that may stand behind the selected columns. -/
def behindColumns : List String := [", row_number() OVER (ORDER BY ", " FROM "]

/-- The selected columns, or a star for all. -/
def columnsTemplate (names : List String) : Template :=
  if names.isEmpty then [.text "*"] else joined ", " (names.map fun name => [.name name])

/-- The rank of ordered rows. -/
def rankTemplate (order : List SortTerm) : Template :=
  if order.isEmpty then []
  else .text ", row_number() OVER (ORDER BY " :: joined ", " (order.map sortTerm) ++
    [.text ") AS ", .name rank]

theorem projectionTemplate_eq (s : Select) :
    s.projectionTemplate = columnsTemplate s.projection ++ rankTemplate s.order := rfl

/-- Selected columns are told apart. -/
theorem splits_columnsTemplate (names names' : List String) :
    Splits behindColumns (columnsTemplate names) (columnsTemplate names') (names = names') := by
  have hquote (name : String) (t : Template) (n : Nat) (x : List Char) :
      (write n ([.name name] ++ t)).toList ++ x =
        '"' :: (quoted name.toList ++ '"' :: ((write n t).toList ++ x)) := by
    rw [List.singleton_append, write, String.toList_append, List.append_assoc, toList_quote_append]
  have hstar : Begins ["*"] behindColumns [.text "*"] := .text (List.mem_singleton_self _)
  have hname (name : String) (rest : List String) : Begins ["\""] behindColumns
      (joined ", " ((name :: rest).map fun name => [.name name])) := by
    obtain ⟨t, ht⟩ := exists_joined_cons ", " [.name name] (rest.map fun name => [.name name])
    rw [List.map_cons, ht]
    intro n x _
    rw [hquote]
    exact opens_append (List.mem_singleton_self _) _
  -- Behind a comma a name follows, and the rank does not begin with a quote.
  have hlead (name : String) (t : Template) :
      Begins [", \""] behindColumns (.text ", " :: ([.name name] ++ t)) := by
    intro n x _
    rw [write, String.toList_append, List.append_assoc, hquote]
    exact opens_append (List.mem_singleton_self _) _
  have hempty (name : String) (rest : List String) : Splits behindColumns (columnsTemplate [])
      (columnsTemplate (name :: rest)) False :=
    .of_begins (by decide) hstar (hname name rest)
  have hboth (a : String) (as : List String) (b : String) (bs : List String) :
      Splits behindColumns (columnsTemplate (a :: as)) (columnsTemplate (b :: bs))
        ((a :: as).map id = (b :: bs).map id) :=
    .joined (fun a b => .name (by decide) a b) hlead (by decide) a as b bs
  exact (Splits.of_lists hempty hboth names names').imp fun h => by simpa using h

/-- What stands behind the name in a key to sort by. -/
def directionTemplate : Option Direction → Template
  | some direction => [.text (" " ++ direction.word)]
  | none => []

theorem sortTerm_eq (term : SortTerm) :
    sortTerm term = [.name term.column] ++ directionTemplate term.direction := by
  obtain ⟨column, _ | direction⟩ := term <;> rfl

/-- Keys to sort by are told apart. -/
theorem splits_sortTerm (a b : SortTerm) :
    Splits [", ", ") AS "] (sortTerm a) (sortTerm b) (a = b) := by
  have hword (d : Direction) (t : Template) :
      Begins [" " ++ d.word] [", ", ") AS "] (.text (" " ++ d.word) :: t) :=
    .text (List.mem_singleton_self _)
  have hends (d : Direction) : ∀ e ∈ [", ", ") AS "], Apart (" " ++ d.word) e := by
    cases d <;> decide
  have hdirection (d d' : Option Direction) : Splits [", ", ") AS "] (directionTemplate d)
      (directionTemplate d') (d = d') := by
    rcases d with _ | d <;> rcases d' with _ | d'
    · exact .of_skeleton_eq rfl rfl
    · exact .nil_begins (hword d' []) (hends d')
    · exact (Splits.nil_begins (hword d []) (hends d)).symm
    · by_cases hsame : d = d'
      · exact .of_skeleton_eq (by rw [hsame]) (congrArg some hsame)
      · refine .of_apart ?_
        cases d <;> cases d'
        · exact absurd rfl hsame
        · decide
        · decide
        · exact absurd rfl hsame
  have hbegins (d : Option Direction) : Begins [" ASC", " DESC", ", ", ") AS "] [", ", ") AS "]
      (directionTemplate d) := by
    rcases d with _ | d
    · exact .nil (by decide)
    · exact .text (by cases d <;> decide)
  have hterm := (Splits.name (by decide) a.column b.column).append
    (fun _ => hdirection a.direction b.direction) (hbegins a.direction) (hbegins b.direction)
  rw [sortTerm_eq, sortTerm_eq]
  refine hterm.imp fun ⟨hcolumn, hdirection⟩ => ?_
  cases a
  cases b
  simp_all

/-- What rows are grouped by is told apart. -/
theorem splits_groupTerm (a b : Grouping) :
    Splits (", " :: behindGroups) (groupTerm a) (groupTerm b) (a = b) := by
  have hmixed (name : String) (place : Nat) :
      Splits (", " :: behindGroups) [.name name] [.text (toString place)]
        (Grouping.column name = .position place) := by
    intro n x y _ _ heq
    simp only [write, String.append_empty, toList_quote_append] at heq
    -- A number begins with a digit, and a quote is none.
    cases hdigits : (toString place).toList with
    | nil => exact absurd (String.toList_eq_nil_iff.mp hdigits) (Text.toString_ne_empty place)
    | cons c digits =>
      rw [hdigits, List.cons_append] at heq
      obtain ⟨rfl, -⟩ := List.cons.inj heq
      have hdigit : '"' ∈ (toString place).toList := hdigits ▸ List.mem_cons_self
      exact absurd (Text.isDigit_of_mem_toString hdigit) (by decide)
  cases a with
  | column name =>
    cases b with
    | column name' => exact (Splits.name (by decide) name name').imp (congrArg Grouping.column)
    | position place => exact hmixed name place
  | position place =>
    cases b with
    | column name => exact (hmixed name place).symm.imp Eq.symm
    | position place' => exact (Splits.number (by decide) place place').imp (congrArg Grouping.position)

/-- What rows are ordered by is told apart by their rank. -/
theorem splits_rankTemplate (order order' : List SortTerm) :
    Splits [" FROM "] (rankTemplate order) (rankTemplate order') (order = order') := by
  have hempty (term : SortTerm) (rest : List SortTerm) :
      Splits [" FROM "] (rankTemplate []) (rankTemplate (term :: rest)) False := by
    have hword : Begins [", row_number() OVER (ORDER BY "] [" FROM "]
        (rankTemplate (term :: rest)) := .text (List.mem_singleton_self _)
    exact .nil_begins hword (by decide)
  have hboth (a : SortTerm) (as : List SortTerm) (b : SortTerm) (bs : List SortTerm) :
      Splits [" FROM "] (rankTemplate (a :: as)) (rankTemplate (b :: bs))
        ((a :: as).map id = (b :: bs).map id) := by
    have hterms : Splits [") AS "] (joined ", " ((a :: as).map sortTerm))
        (joined ", " ((b :: bs).map sortTerm)) ((a :: as).map id = (b :: bs).map id) :=
      .joined splits_sortTerm (fun _ _ => .text (List.mem_singleton_self ", ")) (by decide)
        a as b bs
    have hend : Begins [") AS "] [" FROM "] [.text ") AS ", .name rank] :=
      .text (List.mem_singleton_self _)
    have hranked := hterms.append (fun _ => .of_skeleton_eq rfl trivial) hend hend
    exact (hranked.append_left [.text ", row_number() OVER (ORDER BY "]).imp And.left
  exact (Splits.of_lists hempty hboth order order').imp fun h => by simpa using h

/-! ## Clauses from the last to the first -/

def fromOffset (s : Select) : Template := countClause " OFFSET " s.offset

def fromLimit (s : Select) : Template := countClause " LIMIT " s.limit ++ s.fromOffset

def fromOrder (s : Select) : Template :=
  clause " ORDER BY " ", " (s.order.map sortTerm) ++ s.fromLimit

def fromGroups (s : Select) : Template :=
  clause " GROUP BY " ", " (s.groups.map groupTerm) ++ s.fromOrder

def fromFilters (s : Select) : Template :=
  clause " WHERE " " AND " (s.filtersByFamily.map fun (column, f) => filterTerm column f) ++
    s.fromGroups

theorem rows_eq (s : Select) :
    s.rows = .text "SELECT " :: (s.projectionTemplate ++
      (.text " FROM " :: (relationName s.relation ++ s.fromFilters))) := by
  simp [rows, fromFilters, fromGroups, fromOrder, fromLimit, fromOffset]

theorem begins_fromOffset (s : Select) : Begins behindLimit behindRows s.fromOffset := by
  have h := Begins.countClause (n := s.offset) (List.mem_cons_self : " OFFSET " ∈ behindLimit)
    (Begins.nil fun _ => List.mem_cons_of_mem (l := behindRows) _)
  rwa [List.append_nil] at h

theorem begins_fromLimit (s : Select) : Begins behindOrder behindRows s.fromLimit :=
  .countClause List.mem_cons_self (s.begins_fromOffset.mono fun _ => List.mem_cons_of_mem _)

theorem begins_fromOrder (s : Select) : Begins behindGroups behindRows s.fromOrder :=
  .clause List.mem_cons_self (s.begins_fromLimit.mono fun _ => List.mem_cons_of_mem _)

theorem begins_fromGroups (s : Select) : Begins behindFilters behindRows s.fromGroups :=
  .clause List.mem_cons_self (s.begins_fromOrder.mono fun _ => List.mem_cons_of_mem _)

variable {s s' : Select}

theorem splits_fromLimit :
    Splits behindRows s.fromLimit s'.fromLimit
      (s.limit.isSome = s'.limit.isSome ∧ s.offset.isSome = s'.offset.isSome) :=
  (Splits.countClause (by decide) s.limit s'.limit).append
    (fun _ => .countClause (by decide) s.offset s'.offset) s.begins_fromOffset s'.begins_fromOffset

theorem splits_fromGroups (horder : s.order = s'.order) :
    Splits behindRows s.fromGroups s'.fromGroups
      (s.groups = s'.groups ∧ s.limit.isSome = s'.limit.isSome ∧
        s.offset.isSome = s'.offset.isSome) := by
  have hgroups (a : Grouping) (as : List Grouping) (b : Grouping) (bs : List Grouping) :
      Splits behindGroups (joined ", " ((a :: as).map groupTerm))
        (joined ", " ((b :: bs).map groupTerm)) ((a :: as).map id = (b :: bs).map id) :=
    .joined splits_groupTerm (fun _ _ => .text (List.mem_singleton_self ", ")) (by decide) a as b bs
  have hrest : Splits behindRows s.fromOrder s'.fromOrder
      (s.limit.isSome = s'.limit.isSome ∧ s.offset.isSome = s'.offset.isSome) := by
    rw [fromOrder, fromOrder, horder]
    exact splits_fromLimit.append_left _
  have hclause : Splits behindGroups (clause " GROUP BY " ", " (s.groups.map groupTerm))
      (clause " GROUP BY " ", " (s'.groups.map groupTerm)) (s.groups.map id = s'.groups.map id) :=
    .clause hgroups (by decide) s.groups s'.groups
  have hboth := hclause.append (fun _ => hrest) s.begins_fromOrder s'.begins_fromOrder
  exact hboth.imp fun ⟨hgroups, hcounts⟩ => ⟨by simpa using hgroups, hcounts⟩

/-! ## Selections -/

/-- Two selections are the same but for literals. -/
structure Alike (s s' : Select) : Prop where
  projection : s.projection = s'.projection
  filters : (s.filtersByFamily.map Prod.snd).map Filter.skeleton =
    (s'.filtersByFamily.map Prod.snd).map Filter.skeleton
  groups : s.groups = s'.groups
  order : s.order = s'.order
  limit : s.limit.isSome = s'.limit.isSome
  offset : s.offset.isSome = s'.offset.isSome

/-- Each filter is on the column that a function gives for the name in it. -/
def TakesColumns (columnOf : String → Column) (s : Select) : Prop :=
  ∀ pair ∈ s.filters, pair.1 = columnOf pair.2.column

theorem TakesColumns.filtersByFamily_eq {columnOf : String → Column}
    (h : TakesColumns columnOf s) :
    s.filtersByFamily = (s.filtersByFamily.map Prod.snd).map fun f => (columnOf f.column, f) := by
  rw [List.map_map]
  refine (List.map_id _).symm.trans (List.map_congr_left fun pair hpair => ?_)
  exact Prod.ext (h pair (mem_filters_of_mem_filtersByFamily hpair)) rfl

theorem opens_frameBack (s : Select) (n : Nat) : Opens behindRows (s.frameBack.write n).toList := by
  have hopens {w : String} (hw : ") AS q".toList <+: w.toList) (t : Template) :
      Opens behindRows (write n (.text w :: t)).toList := by
    rw [write, String.toList_append]
    exact ⟨") AS q", List.mem_cons_self, hw.trans (List.prefix_append _ _)⟩
  rw [frameBack]
  split
  · exact hopens (by decide) []
  · exact hopens (by decide) _

section

variable {columnOf : String → Column} (hname : ∀ name, (columnOf name).name = name)
  (hrelation : s.relation = s'.relation) (hs : TakesColumns columnOf s)
  (hs' : TakesColumns columnOf s')
include hname hrelation hs hs'

/-- The rows of selections from one relation are told apart but for literals. -/
theorem splits_rows : Splits behindRows s.rows s'.rows (Alike s s') := by
  let term (f : Filter) : Template := filterTerm (columnOf f.column) f
  have hfilters (f : Filter) (fs : List Filter) (g : Filter) (gs : List Filter) :
      Splits behindFilters (joined " AND " ((f :: fs).map term))
        (joined " AND " ((g :: gs).map term))
        ((f :: fs).map Filter.skeleton = (g :: gs).map Filter.skeleton) :=
    .joined (splits_filterTerm hname _) (fun _ _ => .text (List.mem_singleton_self " AND "))
      (by decide) f fs g gs
  have hterms {s : Select} (hs : TakesColumns columnOf s) :
      (s.filtersByFamily.map fun (column, f) => filterTerm column f) =
        (s.filtersByFamily.map Prod.snd).map term := by
    conv_lhs => rw [hs.filtersByFamily_eq, List.map_map]
    rfl
  have hcolumns : Splits [" FROM "] s.projectionTemplate s'.projectionTemplate
      (s.projection = s'.projection ∧ s.order = s'.order) := by
    have hbegins (order : List SortTerm) :
        Begins behindColumns [" FROM "] (rankTemplate order) := by
      cases order with
      | nil => exact .nil (by decide)
      | cons term order => exact .text (by decide)
    rw [projectionTemplate_eq, projectionTemplate_eq]
    exact (splits_columnsTemplate s.projection s'.projection).append
      (fun _ => splits_rankTemplate s.order s'.order) (hbegins _) (hbegins _)
  -- The ordering is known from the rank when the clause with it is met.
  have hbehind (horder : s.order = s'.order) :
      Splits behindRows (.text " FROM " :: (relationName s.relation ++ s.fromFilters))
        (.text " FROM " :: (relationName s.relation ++ s'.fromFilters))
        ((s.filtersByFamily.map Prod.snd).map Filter.skeleton =
            (s'.filtersByFamily.map Prod.snd).map Filter.skeleton ∧
          s.groups = s'.groups ∧ s.limit.isSome = s'.limit.isSome ∧
            s.offset.isSome = s'.offset.isSome) := by
    rw [fromFilters, fromFilters, hterms hs, hterms hs']
    exact (((Splits.clause hfilters (by decide) _ _).append (fun _ => splits_fromGroups horder)
      s.begins_fromGroups s'.begins_fromGroups).append_left _).text
  have hfrom (r : Relation) (t : Template) :
      Begins [" FROM "] behindRows (.text " FROM " :: (relationName r ++ t)) :=
    .text (List.mem_singleton_self _)
  rw [rows_eq, rows_eq, ← hrelation]
  refine (hcolumns.append (fun h => hbehind h.2) (hfrom _ _) (hfrom _ _)).text.imp ?_
  rintro ⟨⟨hprojection, horder⟩, hfilters, hgroups, hlimit, hoffset⟩
  exact ⟨hprojection, hfilters, hgroups, horder, hlimit, hoffset⟩

/-- Selections from one relation with one text are the same but for literals. -/
theorem alike_of_sql_eq (h : s.compile.sql = s'.compile.sql) : Alike s s' := by
  have hrows := splits_rows hname hrelation hs hs'
  have hfront : Splits behindRows (frameFront s.order.isEmpty ++ s.rows)
      (frameFront s'.order.isEmpty ++ s'.rows) (Alike s s') := by
    cases s.order.isEmpty <;> cases s'.order.isEmpty
    · exact hrows.append_left _
    · exact .of_apart (by decide)
    · exact .of_apart (by decide)
    · exact hrows.append_left _
  have htext (s : Select) :
      let front := frameFront s.order.isEmpty ++ s.rows
      s.compile.sql.toList =
        (front.write 1).toList ++ (s.frameBack.write (1 + front.arguments.length)).toList := by
    intro front
    show (s.template.write 1).toList = _
    rw [template_eq_frame, write_append, String.toList_append]
  have heq := (htext s).symm.trans ((congrArg String.toList h).trans (htext s'))
  exact (hfront 1 _ _ (s.opens_frameBack _) (s'.opens_frameBack _) heq).1

end

end Select

/-! ## Literals -/

/-- Filters that are the same but for literals have as many literals. -/
theorem length_literals_eq {c d : Condition} (h : c.skeleton = d.skeleton) :
    c.literals.length = d.literals.length := by
  cases c <;> cases d <;> simp_all [Condition.skeleton, Condition.literals]

theorem condition_eq_of_skeleton_eq {c d : Condition} (hskeleton : c.skeleton = d.skeleton)
    (hliterals : c.literals = d.literals) : c = d := by
  cases c <;> cases d <;> simp_all [Condition.skeleton, Condition.literals]

/-- Filters that are the same but for literals are the same if their literals are, whatever stands
behind these. -/
theorem literals_append_inj {fs gs : List Filter} {x y : List String}
    (hskeleton : fs.map Filter.skeleton = gs.map Filter.skeleton)
    (hliterals : fs.flatMap (fun f => f.condition.literals) ++ x =
      gs.flatMap (fun f => f.condition.literals) ++ y) : fs = gs ∧ x = y := by
  -- The first filters have as many literals, so those of the others begin at one place.
  induction fs generalizing gs with
  | nil =>
    obtain rfl := List.map_eq_nil_iff.mp hskeleton.symm
    exact ⟨rfl, hliterals⟩
  | cons f fs ih =>
    obtain ⟨g, gs, rfl⟩ := List.exists_cons_of_ne_nil (l := gs) (by rintro rfl; cases hskeleton)
    obtain ⟨hfirst, hrest⟩ := List.cons.inj hskeleton
    obtain ⟨hcolumn, hnegated, hcondition⟩ := Filter.mk.inj hfirst
    simp only [List.flatMap_cons, List.append_assoc] at hliterals
    obtain ⟨hsame, hliterals⟩ := List.append_inj hliterals (length_literals_eq hcondition)
    obtain ⟨rfl, rfl⟩ := ih hrest hliterals
    have hfilter : f = g := by
      cases f
      cases g
      have := condition_eq_of_skeleton_eq hcondition hsame
      simp_all
    exact ⟨by rw [hfilter], rfl⟩

/-- Numbers of rows that are given alike are the same if their numerals are. -/
theorem counts_inj {m m' n n' : Option Nat} (hm : m.isSome = m'.isSome)
    (hn : n.isSome = n'.isSome)
    (h : (m.toList ++ n.toList).map toString = (m'.toList ++ n'.toList).map toString) :
    m = m' ∧ n = n' := by
  have hlists := List.map_injective_iff.mpr Text.toString_injective h
  cases m <;> cases m' <;> cases n <;> cases n' <;> simp_all

/-- Selections from one relation, whose filters take the columns of a name from the same place,
have the same statement exactly if they select, filter by family, group, order and cut off
alike. -/
theorem Select.compile_eq_iff {s s' : Select} {columnOf : String → Column}
    (hname : ∀ name, (columnOf name).name = name) (hrelation : s.relation = s'.relation)
    (hs : TakesColumns columnOf s) (hs' : TakesColumns columnOf s') :
    s.compile = s'.compile ↔
      s.projection = s'.projection ∧ s.filtersByFamily = s'.filtersByFamily ∧
        s.groups = s'.groups ∧ s.order = s'.order ∧ s.limit = s'.limit ∧ s.offset = s'.offset := by
  constructor
  · intro h
    have halike := alike_of_sql_eq hname hrelation hs hs' (congrArg Query.sql h)
    have hparams := congrArg Query.params h
    have hliterals (s : Select) : s.compile.params =
        (s.filtersByFamily.map Prod.snd).flatMap (fun f => f.condition.literals) ++
          (s.limit.toList ++ s.offset.toList).map toString := by
      rw [params_compile, literals, List.flatMap_map]
    rw [hliterals, hliterals] at hparams
    obtain ⟨hfilters, hcounts⟩ := literals_append_inj halike.filters hparams
    obtain ⟨hlimit, hoffset⟩ := counts_inj halike.limit halike.offset hcounts
    refine ⟨halike.projection, ?_, halike.groups, halike.order, hlimit, hoffset⟩
    rw [hs.filtersByFamily_eq, hfilters, ← hs'.filtersByFamily_eq]
  · rintro ⟨hprojection, hfilters, hgroups, horder, hlimit, hoffset⟩
    have htemplate : s.template = s'.template := by
      simp only [template, rows, projectionTemplate, sortTerms, outputColumns, hrelation,
        hprojection, hfilters, hgroups, horder, hlimit, hoffset]
    rw [compile, compile, htemplate]

end Sql

end RelationGateway
