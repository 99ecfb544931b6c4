import Mathlib.Data.List.Basic
import RelationGateway.Sql.Select

/-!
# What a statement is without its literals

The skeleton of a template, of a condition or of a selection is what is left when the literals
in it are forgotten. The text of a statement is that of its skeleton, and its parameters are the
literals in order.

* `Template.write_eq_of_skeleton_eq`: templates with one skeleton have one text;
* `Select.skeleton_template`: the skeleton of a selection's template is made from the
  skeleton of the selection;
* `Select.params_compile`: the parameters of a selection are its literals.
-/

namespace RelationGateway

/-- A token without its literal. -/
def Sql.Token.skeleton : Sql.Token → Sql.Token
  | .argument _ => .argument ""
  | token => token

/-- A condition without its literals. The number of items of a list is kept. -/
def Condition.skeleton : Condition → Condition
  | .compare comparison _ => .compare comparison ""
  | .matches matching _ => .matches matching ""
  | .is constant => .is constant
  | .among items => .among (items.map fun _ => "")

/-- The literals of a condition, in order. -/
def Condition.literals : Condition → List String
  | .compare _ operand => [operand]
  | .matches _ pattern => [pattern]
  | .is _ => []
  | .among items => items

/-- A filter without its literals. -/
def Filter.skeleton (filter : Filter) : Filter :=
  { filter with condition := filter.condition.skeleton }

/-- A condition without its literals is of the same family. -/
@[simp]
theorem Condition.family_skeleton (condition : Condition) :
    condition.skeleton.family = condition.family := by
  cases condition <;> rfl

namespace Sql

namespace Template

/-- A template without its literals. -/
def skeleton (t : Template) : Template := t.map Token.skeleton

@[simp]
theorem skeleton_nil : skeleton [] = [] := rfl

@[simp]
theorem skeleton_cons (token : Token) (t : Template) :
    skeleton (token :: t) = token.skeleton :: skeleton t := rfl

@[simp]
theorem skeleton_append (t u : Template) : skeleton (t ++ u) = skeleton t ++ skeleton u :=
  List.map_append

/-- A single template is joined to nothing. -/
theorem joined_singleton (separator : String) (part : Template) : joined separator [part] = part := by
  simp [joined]

/-- Joined templates are the first one, the text between and the others joined. -/
theorem joined_cons_cons (separator : String) (part next : Template) (rest : List Template) :
    joined separator (part :: next :: rest) =
      part ++ .text separator :: joined separator (next :: rest) := by
  rw [joined, List.intercalate_cons_cons, List.append_assoc]
  rfl

/-- Joined templates begin with the first one. -/
theorem exists_joined_cons (separator : String) (part : Template) (rest : List Template) :
    ∃ t, joined separator (part :: rest) = part ++ t := by
  cases rest with
  | nil => exact ⟨[], by rw [joined_singleton, List.append_nil]⟩
  | cons next rest => exact ⟨_, joined_cons_cons ..⟩

/-- Tokens are replaced in joined templates part by part, if texts stay as they are. -/
theorem map_joined {f : Token → Token} (hf : ∀ s, f (.text s) = .text s) (separator : String)
    (parts : List Template) :
    (joined separator parts).map f = joined separator (parts.map (List.map f)) := by
  induction parts with
  | nil => rfl
  | cons part rest ih =>
    cases rest with
    | nil => simp [joined]
    | cons next rest =>
      rw [joined_cons_cons, List.map_append, List.map_cons, ih, hf]
      exact (joined_cons_cons ..).symm

/-- What is collected from joined templates is collected from one after the other, if there is
nothing in texts. -/
theorem filterMap_joined {α : Type} {f : Token → Option α} (hf : ∀ s, f (.text s) = none)
    (separator : String) (parts : List Template) :
    (joined separator parts).filterMap f = parts.flatMap (List.filterMap f) := by
  induction parts with
  | nil => rfl
  | cons part rest ih =>
    cases rest with
    | nil => simp [joined]
    | cons next rest =>
      rw [joined_cons_cons, List.filterMap_append, List.filterMap_cons_none (hf separator), ih]
      rfl

/-- The skeleton of joined templates joins their skeletons. -/
@[simp]
theorem skeleton_joined (separator : String) (parts : List Template) :
    skeleton (joined separator parts) = joined separator (parts.map skeleton) :=
  map_joined (fun _ => rfl) separator parts

@[simp]
theorem arguments_nil : arguments [] = [] := rfl

@[simp]
theorem arguments_text (s : String) (t : Template) :
    arguments (.text s :: t) = arguments t := rfl

@[simp]
theorem arguments_name (s : String) (t : Template) :
    arguments (.name s :: t) = arguments t := rfl

@[simp]
theorem arguments_argument (s : String) (t : Template) :
    arguments (.argument s :: t) = s :: arguments t := rfl

@[simp]
theorem arguments_append (t u : Template) : arguments (t ++ u) = arguments t ++ arguments u :=
  List.filterMap_append

/-- The arguments of joined templates are those of one after the other. -/
@[simp]
theorem arguments_joined (separator : String) (parts : List Template) :
    arguments (joined separator parts) = parts.flatMap arguments :=
  filterMap_joined (fun _ => rfl) separator parts

/-- Templates without arguments have none one after the other. -/
theorem flatMap_arguments_eq_nil {α : Type} {part : α → Template}
    (hpart : ∀ x, arguments (part x) = []) (xs : List α) :
    (xs.map part).flatMap arguments = [] := by
  rw [List.flatMap_map]
  exact List.flatMap_eq_nil_iff.mpr fun x _ => hpart x

/-- The text of a template is that of its skeleton: an argument is written as its number. -/
theorem write_skeleton (n : Nat) (t : Template) : t.skeleton.write n = t.write n := by
  -- The number counts arguments, and a token and its skeleton count the same.
  induction t generalizing n with
  | nil => rfl
  | cons token rest ih =>
    cases token <;> simp only [skeleton_cons, Token.skeleton, write, ih]

/-- Templates with one skeleton have one text. -/
theorem write_eq_of_skeleton_eq {t u : Template} (h : t.skeleton = u.skeleton) (n : Nat) :
    t.write n = u.write n := by
  rw [← write_skeleton n t, h, write_skeleton]

/-- Templates with one skeleton have as many arguments. -/
theorem length_arguments_eq {t u : Template} (h : t.skeleton = u.skeleton) :
    t.arguments.length = u.arguments.length := by
  have hlength (t : Template) : t.skeleton.arguments.length = t.arguments.length := by
    induction t with
    | nil => rfl
    | cons token rest ih => cases token <;> simp [Token.skeleton, ih]
  rw [← hlength t, h, hlength]

end Template

open Template

/-! ## Conditions -/

/-- The template of a condition loses its literals with the condition. -/
@[simp]
theorem skeleton_condition (column : Column) (c : Condition) :
    skeleton (condition column c) = condition column c.skeleton := by
  cases c <;> simp [condition, Condition.skeleton, typed, Token.skeleton, Function.comp_def]

/-- The arguments of a condition are its literals. -/
@[simp]
theorem arguments_condition (column : Column) (c : Condition) :
    arguments (condition column c) = c.literals := by
  cases c <;> simp [condition, Condition.literals, typed, List.flatMap_map]

/-- The template of a filter loses its literals with the filter. -/
@[simp]
theorem skeleton_filterTerm (column : Column) (filter : Filter) :
    skeleton (filterTerm column filter) = filterTerm column filter.skeleton := by
  simp only [filterTerm, skeleton_cons, skeleton_append, skeleton_condition, skeleton_nil,
    Token.skeleton]
  rfl

/-- The arguments of a filter are the literals of its condition. -/
@[simp]
theorem arguments_filterTerm (column : Column) (filter : Filter) :
    arguments (filterTerm column filter) = filter.condition.literals := by
  simp [filterTerm]

/-! ## Look-ups -/

/-- The text of a look-up does not depend on the key. -/
theorem sql_lookup_eq (r : Relation) (column : Column) (key key' : String) :
    (lookup r column key).sql = (lookup r column key').sql :=
  Template.write_eq_of_skeleton_eq rfl 1

/-- The parameter of a look-up is its key. -/
theorem params_lookup (r : Relation) (column : Column) (key : String) :
    (lookup r column key).params = [key] := rfl

/-! ## Clauses -/

/-- Tokens are replaced in a clause part by part, if texts stay as they are. -/
theorem map_clause {f : Token → Token} (hf : ∀ s, f (.text s) = .text s)
    (word separator : String) (parts : List Template) :
    (Select.clause word separator parts).map f =
      Select.clause word separator (parts.map (List.map f)) := by
  cases parts with
  | nil => rfl
  | cons part rest =>
    rw [Select.clause, if_neg (by simp), List.map_cons, hf, map_joined hf]
    rfl

/-- What is collected from a clause is collected from one part after the other, if there is
nothing in texts. -/
theorem filterMap_clause {α : Type} {f : Token → Option α} (hf : ∀ s, f (.text s) = none)
    (word separator : String) (parts : List Template) :
    (Select.clause word separator parts).filterMap f = parts.flatMap (List.filterMap f) := by
  cases parts with
  | nil => rfl
  | cons part rest =>
    rw [Select.clause, if_neg (by simp), List.filterMap_cons_none (hf word), filterMap_joined hf]

/-- A clause keeps its words and the skeletons of its parts. -/
@[simp]
theorem skeleton_clause (word separator : String) (parts : List Template) :
    skeleton (Select.clause word separator parts) =
      Select.clause word separator (parts.map skeleton) :=
  map_clause (fun _ => rfl) word separator parts

/-- The arguments of a clause are those of its parts. -/
@[simp]
theorem arguments_clause (word separator : String) (parts : List Template) :
    arguments (Select.clause word separator parts) = parts.flatMap arguments :=
  filterMap_clause (fun _ => rfl) word separator parts

/-- A number of rows keeps only that it is there. -/
theorem skeleton_countClause_map (word : String) (f : Nat → Nat) (n : Option Nat) :
    skeleton (Select.countClause word (n.map f)) = skeleton (Select.countClause word n) := by
  cases n <;> simp [Select.countClause, rowCount, Token.skeleton]

/-- The argument of a number of rows is its numeral. -/
@[simp]
theorem arguments_countClause (word : String) (n : Option Nat) :
    arguments (Select.countClause word n) = n.toList.map toString := by
  cases n <;> simp [Select.countClause, rowCount]

/-- A key to sort by holds no literal. -/
@[simp]
theorem arguments_sortTerm (term : SortTerm) : arguments (Select.sortTerm term) = [] := by
  unfold Select.sortTerm
  split <;> rfl

/-- What rows are grouped by holds no literal. -/
@[simp]
theorem arguments_groupTerm (grouping : Grouping) : arguments (Select.groupTerm grouping) = [] := by
  cases grouping <;> rfl

/-! ## Selections -/

namespace Select

/-- A selection without its literals. -/
def skeleton (s : Select) : Select :=
  { s with
    filters := s.filters.map fun (column, filter) => (column, filter.skeleton)
    limit := s.limit.map fun _ => 0
    offset := s.offset.map fun _ => 0 }

/-- The literals of a selection: those of its filters family by family, then the numbers of
rows. -/
def literals (s : Select) : List String :=
  s.filtersByFamily.flatMap (fun (_, filter) => filter.condition.literals) ++
    (s.limit.toList ++ s.offset.toList).map toString

/-- The filters of one family do not depend on the literals. -/
theorem filtersByFamily_skeleton (s : Select) :
    s.skeleton.filtersByFamily =
      s.filtersByFamily.map fun (column, filter) => (column, filter.skeleton) := by
  simp only [filtersByFamily, skeleton, List.map_flatMap, List.filter_map, Function.comp_def,
    Filter.skeleton, Condition.family_skeleton]

/-- The rows of a selection without its literals are selected by the same skeleton. -/
theorem skeleton_rows (s : Select) : s.skeleton.rows.skeleton = s.rows.skeleton := by
  have hprojection : s.skeleton.projectionTemplate = s.projectionTemplate := rfl
  have hlimit : Template.skeleton (countClause " LIMIT " s.skeleton.limit) =
      Template.skeleton (countClause " LIMIT " s.limit) := skeleton_countClause_map _ _ _
  have hoffset : Template.skeleton (countClause " OFFSET " s.skeleton.offset) =
      Template.skeleton (countClause " OFFSET " s.offset) := skeleton_countClause_map _ _ _
  -- Literals that are forgotten cannot be forgotten again.
  have hfilter (f : Filter) : f.skeleton.skeleton = f.skeleton := by
    rcases f with ⟨_, _, _ | _ | _ | _⟩ <;> simp [Filter.skeleton, Condition.skeleton]
  simp only [rows, skeleton_append, skeleton_cons, skeleton_clause, hprojection, hlimit, hoffset,
    filtersByFamily_skeleton, List.map_map, Function.comp_def, skeleton_filterTerm, hfilter]
  rfl

/-- The statement of a selection has the skeleton of the statement of its skeleton. -/
theorem skeleton_template (s : Select) : s.skeleton.template.skeleton = s.template.skeleton := by
  have horder : s.skeleton.order = s.order := rfl
  -- Whether the rows are wrapped to be ordered is seen from the ordering alone.
  simp only [template, horder]
  split
  · simp only [skeleton_append, skeleton_cons, skeleton_rows]
  · simp only [skeleton_append, skeleton_cons, skeleton_rows]
    rfl

/-- Selections that differ only in literals have one text. -/
theorem sql_eq_of_skeleton_eq {s s' : Select} (h : s.skeleton = s'.skeleton) :
    s.compile.sql = s'.compile.sql := by
  refine Template.write_eq_of_skeleton_eq ?_ 1
  rw [← skeleton_template s, h, skeleton_template]

/-- Keys to sort by hold no literal. -/
@[simp]
theorem arguments_sortTerms (s : Select) : s.sortTerms.arguments = [] := by
  rw [sortTerms, arguments_joined]
  exact flatMap_arguments_eq_nil arguments_sortTerm s.order

/-- What is selected holds no literal. -/
@[simp]
theorem arguments_projectionTemplate (s : Select) : s.projectionTemplate.arguments = [] := by
  have hnames : (s.projection.map fun name => [Token.name name]).flatMap arguments = [] :=
    flatMap_arguments_eq_nil (fun _ => rfl) s.projection
  unfold projectionTemplate
  split <;> split <;> simp [hnames]

/-- Families have no filters but those of the selection. -/
theorem mem_filters_of_mem_filtersByFamily {s : Select} {pair : Column × Filter}
    (h : pair ∈ s.filtersByFamily) : pair ∈ s.filters := by
  obtain ⟨_, -, hfamily⟩ := List.mem_flatMap.mp h
  exact List.mem_of_mem_filter hfamily

/-- The statement that selects the rows, with the filters as pairs. -/
theorem rows_eq_pairs (s : Select) : s.rows =
    .text "SELECT " :: s.projectionTemplate ++ .text " FROM " :: relationName s.relation ++
      clause " WHERE " " AND " (s.filtersByFamily.map fun pair => filterTerm pair.1 pair.2) ++
      clause " GROUP BY " ", " (s.groups.map groupTerm) ++
      clause " ORDER BY " ", " (s.order.map sortTerm) ++
      countClause " LIMIT " s.limit ++ countClause " OFFSET " s.offset := rfl

/-- What stands in front of the rows, which are ordered or not. -/
def frameFront (unordered : Bool) : Template :=
  if unordered then [.text "SELECT coalesce(json_agg(row_to_json(q)), '[]'::json) FROM ("]
  else [.text "SELECT coalesce(json_agg(row_to_json(r) ORDER BY q.", .name rank,
    .text "), '[]'::json) FROM ("]

/-- What stands behind the rows, which are ordered or not. -/
def frameBack (s : Select) : Template :=
  if s.order.isEmpty then [.text ") AS q"]
  else .text ") AS q, LATERAL (SELECT " ::
    joined ", " (s.outputColumns.map fun name => [.text "q.", .name name]) ++ [.text ") AS r"]

theorem template_eq_frame (s : Select) :
    s.template = frameFront s.order.isEmpty ++ s.rows ++ s.frameBack := by
  rw [template, frameFront, frameBack]
  split <;> simp

/-- There are no arguments in front of the rows. -/
theorem arguments_frameFront (unordered : Bool) : (frameFront unordered).arguments = [] := by
  cases unordered <;> rfl

/-- The arguments of the rows of a selection are its literals. -/
theorem arguments_rows (s : Select) : s.rows.arguments = s.literals := by
  have hgroups := flatMap_arguments_eq_nil arguments_groupTerm s.groups
  have horder := flatMap_arguments_eq_nil arguments_sortTerm s.order
  -- Of all clauses only the filters and the numbers of rows hold literals.
  simp only [rows, arguments_text, arguments_append, arguments_clause, arguments_countClause,
    arguments_projectionTemplate, hgroups, horder]
  simp [relationName, literals, List.flatMap_map]

/-- The parameters of a selection are its literals. -/
theorem params_compile (s : Select) : s.compile.params = s.literals := by
  have hcolumns : (s.outputColumns.map fun name => [Token.text "q.", Token.name name]).flatMap
      arguments = [] := flatMap_arguments_eq_nil (fun _ => rfl) s.outputColumns
  have hparams : s.compile.params = s.template.arguments := rfl
  rw [hparams, template]
  split <;> simp [arguments_rows, hcolumns]

end Select

end Sql

end RelationGateway
