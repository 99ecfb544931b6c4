import RelationGateway.Proofs.Relation.Pagination
import RelationGateway.Proofs.Sql.Nesting

/-!
# The clauses of a selection

A selection is compiled to a statement that takes its rows from another one. The words of each
clause of the inner statement stand once outside of names and parentheses, whatever the names are, as
long as the types of filtered columns close the names and parentheses that they open.

* `Template.Closed`, `Template.Spells`: templates that are balanced, and the words in them;
* `Select.rowsFront`, `orderText`: the inner statement up to its order, and the order;
* `Select.innerText`, `Select.source?_compile`: the inner statement and where it is found;
* `Select.exists_keywords_innerText`: the words of its clauses;
* `LimitedBy`, `Select.limitedBy_innerText`: it has the limit of the selection.
-/

namespace RelationGateway.Sql

open Nesting

/-! ## Templates -/

namespace Template

/-- Whatever the number of its first argument is, the template is written as a balanced text. -/
def Closed (t : Template) : Prop := ∀ k, Balanced (t.write k)

/-- The template is closed, and outside of names and parentheses there are only the given words. -/
structure Spells (words : List String) (t : Template) : Prop where
  /-- It is closed. -/
  closed : Closed t
  /-- The words are among the given ones. -/
  subset : ∀ k, keywords (t.write k) ⊆ words

variable {t u : Template} {s opening closing separator : String} {words : List String}

namespace Closed

theorem nil : Closed [] := fun _ => rfl

theorem text (hs : Balanced s) : Closed [.text s] := fun k => by
  rw [write, write, String.append_empty]
  exact hs

theorem name (identifier : String) : Closed [.name identifier] := fun k => by
  rw [write, write, String.append_empty]
  exact balanced_quote identifier

theorem argument (value : String) : Closed [.argument value] := fun k => by
  rw [write, write, String.append_empty]
  refine balanced_of_not_mem fun c hc => ?_
  rw [String.toList_append, List.mem_append] at hc
  rcases hc with hdollar | hdigit
  · obtain rfl : c = '$' := List.mem_singleton.mp hdollar
    decide
  · exact (apart_of_isDigit (Text.isDigit_of_mem_toString hdigit)).1

theorem append (ht : Closed t) (hu : Closed u) : Closed (t ++ u) := fun k => by
  rw [write_append]
  exact (ht k).append (hu _)

/-- A template stands in parentheses that open at the end of one text and close at the beginning of
another one. -/
theorem enclosed (hopening : Nesting.after? {} opening.toList = some { depth := 1 })
    (ht : Closed t) (hclosing : Nesting.after? { depth := 1 } closing.toList = some {}) :
    Closed (.text opening :: (t ++ [.text closing])) := fun k => by
  rw [write, write_append, write, write, String.append_empty, ← String.append_assoc]
  exact (ht k).enclosed hopening hclosing

theorem joined (hseparator : Balanced separator) {parts : List Template}
    (hparts : ∀ part ∈ parts, Closed part) : Closed (joined separator parts) := by
  induction parts with
  | nil => exact nil
  | cons part rest ih =>
    obtain ⟨hpart, hrest⟩ := List.forall_mem_cons.mp hparts
    cases rest with
    | nil => simpa [Template.joined] using hpart
    | cons next rest =>
      rw [joined_cons_cons]
      exact hpart.append ((text hseparator).append (ih hrest))

end Closed

namespace Spells

theorem mono {more : List String} (ht : Spells words t) (h : words ⊆ more) : Spells more t :=
  ⟨ht.closed, fun k => List.Subset.trans (ht.subset k) h⟩

theorem nil : Spells words [] := ⟨.nil, fun _ => List.nil_subset _⟩

/-- What is written of a template that begins with a text apart does not begin in a word. -/
theorem beginsApart_text (hs : startsApart s) (k : Nat) :
    BeginsApart (write k (.text s :: t)).toList := by
  rw [write, String.toList_append]
  exact beginsApart_append hs _

/-- A template may stand behind another one if it does not begin in a word. -/
theorem append (ht : Spells words t) (hu : Spells words u)
    (hapart : ∀ k, BeginsApart (u.write k).toList) : Spells words (t ++ u) where
  closed := ht.closed.append hu.closed
  subset k := by
    rw [write_append, keywords_append (ht.closed k) (hapart _)]
    exact List.append_subset.mpr ⟨ht.subset k, hu.subset _⟩

theorem text (hs : Balanced s) (hsubset : keywords s ⊆ words) : Spells words [.text s] :=
  ⟨.text hs, fun k => by rwa [write, write, String.append_empty]⟩

theorem name (identifier : String) : Spells words [.name identifier] :=
  ⟨.name identifier, fun k => by
    rw [write, write, String.append_empty, keywords_quote]
    exact List.nil_subset _⟩

/-- A text that ends outside of words may stand in front of anything. -/
theorem text_append {front : List String} (hs : Leads s front) (hfront : front ⊆ words)
    (ht : Spells words t) : Spells words (.text s :: t) where
  closed := (Closed.text hs.balanced).append ht.closed
  subset k := by
    rw [write, keywords, String.toList_append, hs.read]
    exact List.append_subset.mpr ⟨hfront, ht.subset k⟩

/-- Of a template in parentheses no words are read. -/
theorem enclosed {front : List String}
    (hopening : Nesting.after? {} opening.toList = some { depth := 1 })
    (hread : ∀ rest, keywordsFrom {} [] (opening.toList ++ rest) =
      front ++ keywordsFrom { depth := 1 } [] rest) (hfront : front ⊆ words)
    (ht : Closed t) (hclosing : Nesting.after? { depth := 1 } closing.toList = some {})
    (hback : keywordsFrom { depth := 1 } [] closing.toList ⊆ words) :
    Spells words (.text opening :: (t ++ [.text closing])) where
  closed := .enclosed hopening ht hclosing
  subset k := by
    -- The template is read one parenthesis deeper than it is balanced.
    have hinside := keywordsFrom_deeper (ht k) 0 closing.toList
    rw [write, write_append, write, write, String.append_empty, keywords, String.toList_append,
      String.toList_append, hread]
    exact List.append_subset.mpr ⟨hfront, hinside ▸ hback⟩

theorem joined {between : List String} (hseparator : Leads separator between)
    (hapart : startsApart separator) (hbetween : between ⊆ words) {parts : List Template}
    (hparts : ∀ part ∈ parts, Spells words part) : Spells words (joined separator parts) := by
  induction parts with
  | nil => exact nil
  | cons part rest ih =>
    obtain ⟨hpart, hrest⟩ := List.forall_mem_cons.mp hparts
    cases rest with
    | nil => simpa [Template.joined] using hpart
    | cons next rest =>
      rw [joined_cons_cons]
      exact hpart.append (text_append hseparator hbetween (ih hrest)) (beginsApart_text hapart)

end Spells

end Template

open Template

/-! ## Filters -/

/-- The text behind a value that is cast closes one parenthesis. -/
theorem after?_castEnd {column : Column} (h : Balanced column.type) :
    Nesting.after? { depth := 1 } (castEnd column).toList = some {} := by
  rw [castEnd, String.toList_append, String.toList_append, after?_append, after?_append]
  have hfront : Nesting.after? { depth := 1 } "::text AS ".toList = some { depth := 1 } := rfl
  rw [hfront, Option.bind_some, h.after?]
  rfl

theorem closed_typed {column : Column} (h : Balanced column.type) (value : String) :
    Closed (typed value column) := by
  have heq : typed value column =
      .text "CAST(" :: ([.argument value] ++ [.text (castEnd column)]) := rfl
  rw [heq]
  exact .enclosed rfl (.argument value) (after?_castEnd h)

/-- A condition is closed if the type of its column is balanced. -/
theorem closed_condition {column : Column} (h : Balanced column.type) (c : Condition) :
    Closed (condition column c) := by
  cases c with
  | compare comparison operand =>
    have hsign : Balanced (" " ++ comparison.sign ++ " ") := by cases comparison <;> rfl
    exact ((Closed.name column.name).append (.text hsign)).append (closed_typed h operand)
  | «matches» matching pattern =>
    have hword : Balanced ("::text " ++ matching.word ++ " ") := by cases matching <;> rfl
    exact ((Closed.name column.name).append (.text hword)).append (.argument pattern)
  | is constant =>
    have hword : Balanced (" IS " ++ constant.word) := by cases constant <;> rfl
    exact (Closed.name column.name).append (.text hword)
  | among items =>
    have hitems : Closed (joined ", " (items.map fun item => typed item column)) := by
      refine .joined (by decide) fun part hpart => ?_
      obtain ⟨item, -, rfl⟩ := List.mem_map.mp hpart
      exact closed_typed h item
    have hlist : Closed (.text " IN (" ::
        (joined ", " (items.map fun item => typed item column) ++ [.text ")"])) :=
      .enclosed rfl hitems rfl
    exact (Closed.name column.name).append hlist

/-- Outside of its parentheses a filter has at most the word for its negation. -/
theorem spells_filterTerm {column : Column} (h : Balanced column.type) (f : Filter) :
    Spells ["NOT"] (filterTerm column f) := by
  have hcondition := closed_condition h f.condition
  have hnot (rest : List Char) : keywordsFrom {} [] ("NOT (".toList ++ rest) =
      ["NOT"] ++ keywordsFrom { depth := 1 } [] rest := rfl
  have hopen (rest : List Char) : keywordsFrom {} [] ("(".toList ++ rest) =
      [] ++ keywordsFrom { depth := 1 } [] rest := rfl
  rw [filterTerm, List.cons_append]
  cases f.negated with
  | true => exact .enclosed rfl hnot (by decide) hcondition rfl (by decide)
  | false => exact .enclosed rfl hopen (by decide) hcondition rfl (by decide)

theorem spells_sortTerm (term : SortTerm) : Spells ["ASC", "DESC"] (Select.sortTerm term) := by
  obtain ⟨column, _ | direction⟩ := term
  · exact .name column
  · have hword : Spells ["ASC", "DESC"] [.text (" " ++ direction.word)] := by
      cases direction <;> exact .text rfl (by decide)
    refine (Spells.name column).append hword fun k => ?_
    rw [write, String.toList_append, String.toList_append]
    rintro _ ⟨⟩
    decide

/-- The keys to sort by hold only the words for directions. -/
theorem spells_sortTerms (terms : List SortTerm) :
    Spells ["ASC", "DESC"] (joined ", " (terms.map Select.sortTerm)) := by
  have hcomma : Leads ", " [] := ⟨rfl, fun _ => rfl⟩
  refine .joined hcomma rfl (List.nil_subset _) fun part hpart => ?_
  obtain ⟨term, -, rfl⟩ := List.mem_map.mp hpart
  exact spells_sortTerm term

theorem spells_groupTerm (grouping : Grouping) : Spells [] (Select.groupTerm grouping) := by
  cases grouping with
  | column identifier => exact .name identifier
  | position n =>
    have hdigit : ∀ c ∈ (toString n).toList, c ∉ ['"', '(', ')'] ∧ ¬ isWordChar c :=
      fun c hc => apart_of_isDigit (Text.isDigit_of_mem_toString hc)
    refine .text (balanced_of_not_mem fun c hc => (hdigit c hc).1) ?_
    rw [keywords_eq_nil fun c hc => (hdigit c hc).2]
    exact List.nil_subset _

namespace Select

/-! ## Clauses -/

/-- What is written of a clause does not begin in a word. -/
theorem beginsApart_clause {word separator : String} (hapart : startsApart word)
    (parts : List Template) (k : Nat) :
    BeginsApart ((clause word separator parts).write k).toList := by
  unfold clause
  split
  · rintro _ ⟨⟩
  · exact Spells.beginsApart_text hapart k

theorem spells_clause {word separator : String} {words front between : List String}
    (hword : Leads word front) (hfront : front ⊆ words) (hseparator : Leads separator between)
    (hapart : startsApart separator) (hbetween : between ⊆ words) {parts : List Template}
    (hparts : ∀ part ∈ parts, Spells words part) :
    Spells words (clause word separator parts) := by
  unfold clause
  split
  · exact .nil
  · exact .text_append hword hfront (.joined hseparator hapart hbetween hparts)

/-- What is selected, with the rank of the rows if they are ordered. -/
theorem spells_projectionTemplate (s : Select) :
    Spells ["row_number", "OVER", "AS"] s.projectionTemplate := by
  have hcomma : Leads ", " [] := ⟨rfl, fun _ => rfl⟩
  have hcolumns : Spells ["row_number", "OVER", "AS"] (if s.projection.isEmpty then [.text "*"]
      else joined ", " (s.projection.map fun name => [.name name])) := by
    split
    · exact .text rfl (by decide)
    · refine .joined hcomma rfl (List.nil_subset _) fun part hpart => ?_
      obtain ⟨identifier, -, rfl⟩ := List.mem_map.mp hpart
      exact .name identifier
  have hterms : Closed s.sortTerms := (spells_sortTerms s.order).closed
  have hopen (rest : List Char) :
      keywordsFrom {} [] (", row_number() OVER (ORDER BY ".toList ++ rest) =
        ["row_number", "OVER"] ++ keywordsFrom { depth := 1 } [] rest := rfl
  have hranked : Spells ["row_number", "OVER", "AS"]
      (.text ", row_number() OVER (ORDER BY " :: (s.sortTerms ++ [.text ") AS "])) :=
    .enclosed rfl hopen (by decide) hterms rfl (by decide)
  unfold projectionTemplate
  by_cases hempty : s.order.isEmpty
  · rw [if_pos hempty, List.append_nil]
    exact hcolumns
  · rw [if_neg hempty]
    have hname : Spells ["row_number", "OVER", "AS"] [.name rank] := .name rank
    have hboth := hranked.append hname fun k => by
      rw [write, String.toList_append, toList_quote_append]
      rintro _ ⟨⟩
      decide
    refine hcolumns.append ?_ (Spells.beginsApart_text rfl)
    simpa using hboth

/-- The rows in front of their order and of the numbers of rows. -/
def rowsFront (s : Select) : Template :=
  .text "SELECT " :: (s.projectionTemplate ++ .text " FROM " :: relationName s.relation) ++
    clause " WHERE " " AND " (s.filtersByFamily.map fun (column, f) => filterTerm column f) ++
    clause " GROUP BY " ", " (s.groups.map groupTerm)

theorem rows_eq_front (s : Select) :
    s.rows = s.rowsFront ++ (clause " ORDER BY " ", " (s.order.map sortTerm) ++
      (countClause " LIMIT " s.limit ++ countClause " OFFSET " s.offset)) := by
  simp [rows, rowsFront]

/-- The words in front of the order of rows. -/
def frontWords : List String :=
  ["SELECT", "row_number", "OVER", "AS", "FROM", "WHERE", "AND", "NOT", "GROUP", "BY"]

theorem spells_rowsFront {s : Select} (h : ∀ pair ∈ s.filters, Balanced pair.1.type) :
    Spells frontWords s.rowsFront := by
  have hcomma : Leads ", " [] := ⟨rfl, fun _ => rfl⟩
  have hand : Leads " AND " ["AND"] := ⟨rfl, fun _ => rfl⟩
  have hselect : Leads "SELECT " ["SELECT"] := ⟨rfl, fun _ => rfl⟩
  have hfrom : Leads " FROM " ["FROM"] := ⟨rfl, fun _ => rfl⟩
  have hwhere : Leads " WHERE " ["WHERE"] := ⟨rfl, fun _ => rfl⟩
  have hgroup : Leads " GROUP BY " ["GROUP", "BY"] := ⟨rfl, fun _ => rfl⟩
  have hdot : Leads "." [] := ⟨rfl, fun _ => rfl⟩
  have hrelation : Spells frontWords (relationName s.relation) :=
    (Spells.name _).append (.text_append hdot (by decide) (.name _)) (Spells.beginsApart_text rfl)
  have hprojection : Spells frontWords s.projectionTemplate :=
    (spells_projectionTemplate s).mono (by decide)
  have hfilters : ∀ part ∈ s.filtersByFamily.map fun pair => filterTerm pair.1 pair.2,
      Spells frontWords part := by
    intro part hpart
    obtain ⟨pair, hpair, rfl⟩ := List.mem_map.mp hpart
    have hbalanced := h pair (mem_filters_of_mem_filtersByFamily hpair)
    exact (spells_filterTerm hbalanced pair.2).mono (by decide)
  have hgroups : ∀ part ∈ s.groups.map groupTerm, Spells frontWords part := by
    intro part hpart
    obtain ⟨grouping, -, rfl⟩ := List.mem_map.mp hpart
    exact (spells_groupTerm grouping).mono (List.nil_subset _)
  refine .append (.append (.text_append hselect (by decide) ?_) ?_ ?_) ?_ ?_
  · exact hprojection.append (.text_append hfrom (by decide) hrelation)
      (Spells.beginsApart_text rfl)
  · exact spells_clause hwhere (by decide) hand rfl (by decide) hfilters
  · exact beginsApart_clause rfl _
  · exact spells_clause hgroup (by decide) hcomma rfl (by decide) hgroups
  · exact beginsApart_clause rfl _

end Select

/-! ## The order of rows -/

/-- The text of a key to sort by. -/
def sortText (term : SortTerm) : String :=
  quote term.column ++ term.direction.elim "" fun direction => " " ++ direction.word

/-- The text of the order of rows, or nothing if there is none. -/
def orderText (terms : List SortTerm) : String :=
  if terms.isEmpty then "" else " ORDER BY " ++ String.intercalate ", " (terms.map sortText)

theorem write_sortTerm (term : SortTerm) (k : Nat) :
    (Select.sortTerm term).write k = sortText term := by
  obtain ⟨column, _ | direction⟩ := term
  · simp [Select.sortTerm, write, sortText]
  · simp [Select.sortTerm, write, sortText]

/-- Templates without arguments are joined as their texts are. -/
theorem write_joined {α : Type} {part : α → Template} {text : α → String}
    (hpart : ∀ x k, (part x).write k = text x) (harguments : ∀ x, (part x).arguments = [])
    (separator : String) (xs : List α) (k : Nat) :
    (joined separator (xs.map part)).write k = String.intercalate separator (xs.map text) := by
  induction xs with
  | nil => rfl
  | cons x rest ih =>
    cases rest with
    | nil => simp [joined, hpart]
    | cons next rest =>
      simp only [List.map_cons] at ih ⊢
      rw [joined_cons_cons, write_append, harguments, List.length_nil, Nat.add_zero, write, ih,
        hpart]
      simp [String.append_assoc]

theorem write_orderClause (terms : List SortTerm) (k : Nat) :
    (Select.clause " ORDER BY " ", " (terms.map Select.sortTerm)).write k = orderText terms := by
  unfold Select.clause orderText
  rw [List.isEmpty_map]
  split
  · rfl
  · rw [write, write_joined write_sortTerm arguments_sortTerm]

/-- The words of the order of rows are those of its clause, if there is an order, and those for
directions. -/
theorem exists_keywords_orderText (terms : List SortTerm) :
    Balanced (orderText terms) ∧ ∃ directions, directions ⊆ ["ASC", "DESC"] ∧
      keywords (orderText terms) =
        (if terms.isEmpty then [] else ["ORDER", "BY"]) ++ directions := by
  have horder : Leads " ORDER BY " ["ORDER", "BY"] := ⟨rfl, fun _ => rfl⟩
  have hterms := spells_sortTerms terms
  have hwrite := write_joined write_sortTerm arguments_sortTerm ", " terms 1
  unfold orderText
  split
  · exact ⟨rfl, [], List.nil_subset _, rfl⟩
  · refine ⟨horder.balanced.append (hwrite ▸ hterms.closed 1), _, hwrite ▸ hterms.subset 1, ?_⟩
    rw [keywords, String.toList_append, horder.read]
    rfl

theorem beginsApart_orderText (terms : List SortTerm) : BeginsApart (orderText terms).toList :=
  write_orderClause terms 1 ▸ Select.beginsApart_clause rfl _ 1

/-! ## Numbers of rows -/

variable {word name : String} {k : Nat} {count : Option Nat}

theorem balanced_countText (hword : Balanced word) (k : Nat) (count : Option Nat) :
    Balanced (countText word k count) := by
  rw [← Select.write_countClause]
  cases count with
  | none => rfl
  | some n =>
    have hcount : Closed (.text "CAST(" :: ([.argument (toString n)] ++
      [.text "::text AS bigint)"])) := .enclosed rfl (.argument _) rfl
    exact (Closed.text hword).append hcount k

/-- The words of a number of rows are that of its clause and that of its cast. -/
theorem keywords_countText (hword : Leads word [name]) (k : Nat) (count : Option Nat) :
    keywords (countText word k count) = count.toList.flatMap fun _ => [name, "CAST"] := by
  cases count with
  | none => rfl
  | some n =>
    have hdigits : Balanced (toString k) :=
      balanced_of_not_mem fun c hc => (apart_of_isDigit (Text.isDigit_of_mem_toString hc)).1
    have hopening (rest : List Char) : keywordsFrom {} [] ("CAST($".toList ++ rest) =
        ["CAST"] ++ keywordsFrom { depth := 1 } [] rest := rfl
    have hinside := keywordsFrom_deeper hdigits 0 "::text AS bigint)".toList
    have hclosing : keywordsFrom { depth := 1 } [] "::text AS bigint)".toList = [] := rfl
    rw [countText, keywords]
    simp only [String.append_assoc, String.toList_append]
    rw [hword.read, hopening]
    exact congrArg ([name] ++ ["CAST"] ++ ·) (hinside.trans hclosing)

theorem beginsApart_countText (hword : startsApart word) (k : Nat) (count : Option Nat) :
    BeginsApart (countText word k count).toList := by
  cases count with
  | none => rintro _ ⟨⟩
  | some n =>
    rw [countText, String.append_assoc, String.append_assoc, String.toList_append]
    exact beginsApart_append hword _

/-! ## The inner statement -/

namespace Select

/-- The text of the statement from which a selection takes its rows. -/
def innerText (s : Select) : String :=
  let k := (operands s.filtersByFamily).length + 1
  s.rowsFront.write 1 ++ orderText s.order ++ countText " LIMIT " k s.limit ++
    countText " OFFSET " (k + s.limit.toList.length) s.offset

theorem arguments_rowsFront (s : Select) : s.rowsFront.arguments = operands s.filtersByFamily := by
  -- The literals of the rows are those of the front and then the numbers of rows.
  have hall := arguments_rows s
  have horder := flatMap_arguments_eq_nil arguments_sortTerm s.order
  rw [rows_eq_front, arguments_append, arguments_append, arguments_clause, horder, List.nil_append,
    arguments_append, arguments_countClause, arguments_countClause, ← List.map_append] at hall
  exact List.append_cancel_right hall

/-- The inner statement stands in its frame. -/
theorem sql_compile (s : Select) :
    s.compile.sql = (frameFront s.order.isEmpty).write 1 ++ s.innerText ++
      s.frameBack.write (1 + s.literals.length) := by
  have horder := flatMap_arguments_eq_nil arguments_sortTerm s.order
  have hrows : s.rows.write 1 = s.innerText := by
    simp only [rows_eq_front, write_append, write_orderClause, write_countClause,
      arguments_rowsFront, arguments_clause, horder, List.length_nil, arguments_countClause,
      List.length_map, Nat.add_zero, Nat.add_comm 1, String.append_assoc, innerText]
  have hwrite : s.compile.sql = s.template.write 1 := rfl
  rw [hwrite, template_eq_frame, write_append, write_append, arguments_append, arguments_frameFront,
    List.nil_append, List.length_nil, Nat.add_zero, hrows, arguments_rows]

/-- What stands in the frame of a selection is found there, if it is balanced. -/
theorem source?_frame (unordered : Bool) {inner back : String} (hinner : Balanced inner)
    (hback : ")".toList <+: back.toList) :
    source? ((frameFront unordered).write 1 ++ inner ++ back) = some inner := by
  have hfront : ∃ front,
      Text.cut? " FROM (" ((frameFront unordered).write 1) = some (front, "") := by
    cases unordered with
    | true => exact ⟨"SELECT coalesce(json_agg(row_to_json(q)), '[]'::json)", by decide +kernel⟩
    | false =>
      exact ⟨"SELECT coalesce(json_agg(row_to_json(r) ORDER BY q.\"__pgbridge_rn\"), '[]'::json)",
        by decide +kernel⟩
  obtain ⟨front, hfront⟩ := hfront
  obtain ⟨rest, hrest⟩ := hback
  have hcut := Text.cut?_append hfront (inner ++ back)
  have hread := upToClosing?_append hinner back.toList
  rw [← hrest] at hread
  rw [source?, String.append_assoc, hcut]
  simp only [Option.bind_eq_bind, Option.bind_some, String.toList_append, String.empty_append]
  rw [← hrest, hread]
  simp [upToClosing?, step?]

section

variable {s : Select} (h : ∀ pair ∈ s.filters, Balanced pair.1.type)
include h

theorem balanced_innerText : Balanced s.innerText := by
  have hfront := (spells_rowsFront h).closed 1
  have horder := (exists_keywords_orderText s.order).1
  exact ((hfront.append horder).append (balanced_countText (by decide) _ _)).append
    (balanced_countText (by decide) _ _)

/-- The inner statement is found in the statement of a selection. -/
theorem source?_compile : source? s.compile.sql = some s.innerText := by
  rw [sql_compile]
  refine source?_frame _ (balanced_innerText h) ?_
  unfold frameBack
  split
  · rw [write, write, String.append_empty]
    exact ⟨" AS q".toList, rfl⟩
  · rw [List.cons_append, write, String.toList_append]
    exact ⟨_, rfl⟩

/-- The words of the inner statement are those of its clauses. The clauses up to the order of rows
have none of the words behind them. -/
theorem exists_keywords_innerText :
    ∃ front directions, front ⊆ frontWords ∧ directions ⊆ ["ASC", "DESC"] ∧
      keywords (s.rowsFront.write 1 ++ orderText s.order) =
        front ++ ((if s.order.isEmpty then [] else ["ORDER", "BY"]) ++ directions) ∧
      keywords s.innerText =
        front ++ ((if s.order.isEmpty then [] else ["ORDER", "BY"]) ++ directions) ++
          (s.limit.toList.flatMap fun _ => ["LIMIT", "CAST"]) ++
          s.offset.toList.flatMap fun _ => ["OFFSET", "CAST"] := by
  have hlimit : Leads " LIMIT " ["LIMIT"] := ⟨rfl, fun _ => rfl⟩
  have hoffset : Leads " OFFSET " ["OFFSET"] := ⟨rfl, fun _ => rfl⟩
  have hfront := spells_rowsFront h
  obtain ⟨horder, directions, hdirections, hwords⟩ := exists_keywords_orderText s.order
  have hordered := (hfront.closed 1).append horder
  have hkeywords : keywords (s.rowsFront.write 1 ++ orderText s.order) =
      keywords (s.rowsFront.write 1) ++
        ((if s.order.isEmpty then [] else ["ORDER", "BY"]) ++ directions) := by
    rw [keywords_append (hfront.closed 1) (beginsApart_orderText s.order), hwords]
  refine ⟨_, directions, hfront.subset 1, hdirections, hkeywords, ?_⟩
  rw [innerText, keywords_append (hordered.append (balanced_countText hlimit.balanced _ _))
    (beginsApart_countText rfl _ _), keywords_append hordered (beginsApart_countText rfl _ _),
    keywords_countText hlimit, keywords_countText hoffset, hkeywords]

/-- The word for the order stands once in the inner statement if rows are ordered, and else
never. -/
theorem count_order_innerText : (keywords s.innerText).count "ORDER" = min 1 s.order.length := by
  obtain ⟨front, directions, hfront, hdirections, -, hkeywords⟩ := exists_keywords_innerText h
  have hfront : front.count "ORDER" = 0 :=
    List.count_eq_zero_of_not_mem fun hmem => absurd (hfront hmem) (by decide)
  have hdirections : directions.count "ORDER" = 0 :=
    List.count_eq_zero_of_not_mem fun hmem => absurd (hdirections hmem) (by decide)
  have hcounts (word : String) (hword : [word, "CAST"].count "ORDER" = 0) (count : Option Nat) :
      (count.toList.flatMap fun _ => [word, "CAST"]).count "ORDER" = 0 := by
    cases count with
    | none => rfl
    | some n => simpa using hword
  rw [hkeywords]
  simp only [List.count_append, hfront, hdirections, hcounts "LIMIT" (by decide) s.limit,
    hcounts "OFFSET" (by decide) s.offset]
  cases s.order with
  | nil => rfl
  | cons term rest => simp

end

end Select

/-- The inner statement has the word for a limit once, with the number of the parameter that is the
limit, or without a limit it does not have it. -/
structure LimitedBy (inner : String) (params : List String) (limit : Option Nat) : Prop where
  /-- The word stands once for a limit. -/
  count : (keywords inner).count "LIMIT" = limit.toList.length
  /-- It stands in front of the placeholder of the limit. -/
  place : ∀ n ∈ limit, ∃ front k back,
    inner = front ++ " LIMIT CAST($" ++ toString (k + 1) ++ "::text AS bigint)" ++ back ∧
      Balanced front ∧ "LIMIT" ∉ keywords front ∧ params[k]? = some (toString n)

namespace Select

/-- The literals of the filters stand in front of the limit. -/
theorem getElem?_params_compile (s : Select) :
    ∀ n ∈ s.limit, s.compile.params[(operands s.filtersByFamily).length]? = some (toString n) := by
  intro n hn
  have hlimit : s.limit = some n := hn
  have hparams : s.compile.params = operands s.filtersByFamily ++
      (s.limit.toList ++ s.offset.toList).map toString := params_compile s
  rw [hparams, List.getElem?_append_right (Nat.le_refl _), Nat.sub_self, hlimit]
  rfl

/-- The inner statement of a selection has its limit. -/
theorem limitedBy_innerText {s : Select} (h : ∀ pair ∈ s.filters, Balanced pair.1.type) :
    LimitedBy s.innerText s.compile.params s.limit := by
  obtain ⟨front, directions, hfront, hdirections, hordered, hkeywords⟩ :=
    exists_keywords_innerText h
  -- The word stands in no clause but its own.
  have hnone :
      "LIMIT" ∉ front ++ ((if s.order.isEmpty then [] else ["ORDER", "BY"]) ++ directions) := by
    simp only [List.mem_append, not_or]
    refine ⟨fun hmem => absurd (hfront hmem) (by decide), ?_,
      fun hmem => absurd (hdirections hmem) (by decide)⟩
    split <;> decide
  constructor
  · rw [hkeywords, List.count_append, List.count_append, List.count_eq_zero_of_not_mem hnone]
    cases s.limit <;> cases s.offset <;> rfl
  · intro n hn
    have hsome : s.limit = some n := hn
    have hword (t : String) : " LIMIT " ++ ("CAST($" ++ t) = " LIMIT CAST($" ++ t := by
      rw [← String.append_assoc]
      rfl
    have hbalanced : Balanced (s.rowsFront.write 1 ++ orderText s.order) :=
      ((spells_rowsFront h).closed 1).append (exists_keywords_orderText s.order).1
    -- The literals of the filters have the numbers up to the one of the limit.
    let k := (operands s.filtersByFamily).length
    refine ⟨s.rowsFront.write 1 ++ orderText s.order, k, countText " OFFSET " (k + 2) s.offset, ?_,
      hbalanced, hordered ▸ hnone, getElem?_params_compile s n hn⟩
    rw [innerText, hsome, countText]
    simp only [String.append_assoc, hword]
    rfl

end Select

end RelationGateway.Sql
