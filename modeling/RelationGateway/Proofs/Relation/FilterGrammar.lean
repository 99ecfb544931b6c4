import RelationGateway.Proofs.Delimited
import RelationGateway.Relation.Filter

/-!
# The grammar of filters

The value of a filter variable is `[not.]operator.operand`. This file says which texts that
admits and what they ask for, without the reader, and shows that the reader decides it.

* `clauseText`: the text of a negation, an operator and an operand;
* `Operator.Denotes`: the operands that an operator takes, and the condition each makes;
* `clauseText_inj`: a text is of this form in at most one way;
* `read?_eq_some_iff`: the reader accepts exactly these texts and gives what they ask for.
-/

namespace RelationGateway.Filter

/-- The operators of the grammar. -/
inductive Operator where
  /-- A comparison with the operand. -/
  | compare (comparison : Comparison)
  /-- A match with the operand as a pattern. -/
  | pattern (matching : Matching)
  /-- A test for the constant that the operand names. -/
  | is
  /-- Membership in the list that the operand holds. -/
  | among
deriving DecidableEq, Repr

/-- The word that an operator is written with. -/
def Operator.word : Operator → String
  | .compare .eq => "eq"
  | .compare .neq => "neq"
  | .compare .lt => "lt"
  | .compare .gt => "gt"
  | .compare .lte => "lte"
  | .compare .gte => "gte"
  | .pattern .like => "like"
  | .pattern .ilike => "ilike"
  | .is => "is"
  | .among => "in"

/-- The text `operator.operand`, with `not.` before it if it is negated. -/
def clauseText (negated : Bool) (operator : Operator) (operand : String) : String :=
  (if negated then "not." else "") ++ (operator.word ++ "." ++ operand)

/-- The second text is the first without one pair of parentheses around it, or the first itself
if there is no such pair. -/
inductive Encloses : String → String → Prop
  | pair (inner : String) : Encloses ("(" ++ inner ++ ")") inner
  | bare (operand : String) (h : ∀ inner, operand ≠ "(" ++ inner ++ ")") :
      Encloses operand operand

/-- The items are the pieces of the list between all its commas. -/
structure CommaPieces (list : String) (items : List String) : Prop where
  /-- There is at least one piece. -/
  ne_nil : items ≠ []
  /-- No comma is left in a piece. -/
  not_mem : ∀ item ∈ items, ',' ∉ item.toList
  /-- The pieces with commas between them are the list. -/
  intercalate_eq : String.intercalate "," items = list

/-- The operator takes the operand: any text is compared with or is a pattern, a constant has one
of three names, and a list encloses some text. -/
def Operator.Takes : Operator → String → Prop
  | .compare _, _ | .pattern _, _ => True
  | .is, operand => operand = "true" ∨ operand = "false" ∨ operand = "null"
  | .among, operand => ∃ inner, Encloses operand inner ∧ inner ≠ ""

/-- The operator takes the operand, and the condition is what the two ask for. -/
inductive Operator.Denotes : Operator → String → Condition → Prop
  | compare (comparison : Comparison) (operand : String) :
      Denotes (.compare comparison) operand (.compare comparison operand)
  | pattern (matching : Matching) (operand glob : String)
      (h : glob.toList = operand.toList.map fun c => if c = '*' then '%' else c) :
      Denotes (.pattern matching) operand (.matches matching glob)
  | yes : Denotes .is "true" (.is .yes)
  | no : Denotes .is "false" (.is .no)
  | null : Denotes .is "null" (.is .null)
  | among {operand inner : String} {items : List String} (hinner : Encloses operand inner)
      (hne : inner ≠ "") (hitems : CommaPieces inner items) :
      Denotes .among operand (.among items)

/-! ## Words -/

/-- No word holds a dot. -/
theorem Operator.dot_not_mem_word (operator : Operator) : '.' ∉ operator.word.toList := by
  rcases operator with (_ | _ | _ | _ | _ | _) | (_ | _) | _ | _ <;> decide

/-- No operator is written like the negation. -/
theorem Operator.word_ne_not (operator : Operator) : operator.word ≠ "not" := by
  rcases operator with (_ | _ | _ | _ | _ | _) | (_ | _) | _ | _ <;> decide

/-- Different operators have different words. -/
theorem Operator.word_inj {operator operator' : Operator} (h : operator.word = operator'.word) :
    operator = operator' := by
  rcases operator with (_ | _ | _ | _ | _ | _) | (_ | _) | _ | _ <;>
    rcases operator' with (_ | _ | _ | _ | _ | _) | (_ | _) | _ | _ <;>
      first | rfl | exact absurd h (by decide)

/-- The first dot of `operator.operand` is the one after the operator. -/
theorem Operator.cut?_word (operator : Operator) (operand : String) :
    Text.cut? "." (operator.word ++ "." ++ operand) = some (operator.word, operand) :=
  Text.cut?_of_not_mem rfl operator.dot_not_mem_word operand

/-- What has no negation before it does not begin with one. -/
theorem Operator.dropStart?_word (operator : Operator) (operand : String) :
    Text.dropStart? "not." (operator.word ++ "." ++ operand) = none := by
  rw [Option.eq_none_iff_forall_ne_some]
  intro rest hrest
  have heq : operator.word ++ "." ++ operand = "not" ++ "." ++ rest :=
    Text.dropStart?_eq_some_iff.mp hrest
  -- Both sides have the same first dot, so the operator would be written `not`.
  have hcut : Text.cut? "." ("not" ++ "." ++ rest) = some ("not", rest) :=
    Text.cut?_of_not_mem rfl (by decide) rest
  rw [← heq, operator.cut?_word] at hcut
  exact operator.word_ne_not (Prod.mk.inj (Option.some.inj hcut)).1

/-- A text is a negation, an operator and an operand in at most one way. -/
theorem clauseText_inj {negated negated' : Bool} {operator operator' : Operator}
    {operand operand' : String}
    (h : clauseText negated operator operand = clauseText negated' operator' operand') :
    negated = negated' ∧ operator = operator' ∧ operand = operand' := by
  -- Without negations the first dots show the operators, and a negation is no operator.
  have hsame : ∀ {o o' : Operator} {x x' : String},
      o.word ++ "." ++ x = o'.word ++ "." ++ x' → o = o' ∧ x = x' := by
    intro o o' x x' heq
    have hcut := o.cut?_word x
    rw [heq, o'.cut?_word, Option.some.injEq, Prod.mk.injEq] at hcut
    exact ⟨Operator.word_inj hcut.1.symm, hcut.2.symm⟩
  have hmixed : ∀ {o o' : Operator} {x x' : String},
      o.word ++ "." ++ x ≠ "not." ++ (o'.word ++ "." ++ x') := by
    intro o o' x x' heq
    have hdrop := o.dropStart?_word x
    rw [heq, Text.dropStart?_eq_some_iff.mpr rfl] at hdrop
    exact Option.some_ne_none _ hdrop
  cases negated <;> cases negated' <;>
    simp only [clauseText, Bool.false_eq_true, if_true, if_false, String.empty_append] at h
  · exact ⟨rfl, hsame h⟩
  · exact absurd h hmixed
  · exact absurd h.symm hmixed
  · have hrest : "not." ++ (operator.word ++ "." ++ operand) =
        "not." ++ (operator'.word ++ "." ++ operand') := h
    exact ⟨rfl, hsame ((String.append_right_inj _).mp hrest)⟩

/-! ## Operands -/

/-- Every text encloses one text, which is the one that the reader takes. -/
theorem encloses_iff {operand inner : String} :
    Encloses operand inner ↔ Text.unenclosed "(" ")" operand = inner := by
  constructor
  · rintro (_ | ⟨_, h⟩)
    · exact Text.unenclosed_enclosed _ _ _
    · exact Text.unenclosed_of_forall_ne h
  · rintro rfl
    by_cases h : ∃ inner, operand = "(" ++ inner ++ ")"
    · obtain ⟨inner, rfl⟩ := h
      rw [Text.unenclosed_enclosed]
      exact .pair inner
    · have hbare := not_exists.mp h
      rw [Text.unenclosed_of_forall_ne hbare]
      exact .bare operand hbare

/-- The pieces between commas are the ones that the reader takes. -/
theorem commaPieces_iff {list : String} {items : List String} :
    CommaPieces list items ↔ Text.segments "," list = items := by
  rw [Text.segments_singleton_eq_iff rfl]
  exact ⟨fun ⟨hne, hmem, hjoin⟩ => ⟨hne, hmem, hjoin⟩, fun ⟨hne, hmem, hjoin⟩ => ⟨hne, hmem, hjoin⟩⟩

/-- A list is read exactly when it encloses some text, and then its items are the pieces of
that text. -/
theorem items?_eq_some_iff {operand : String} {items : List String} :
    items? operand = some items ↔
      ∃ inner, Encloses operand inner ∧ inner ≠ "" ∧ CommaPieces inner items := by
  simp only [encloses_iff, commaPieces_iff, exists_eq_left', items?]
  split
  next hempty => simp [String.isEmpty_iff.mp hempty]
  next hempty => simpa using fun _ => by simpa using hempty

/-- The condition that the word of an operator and an operand make is the one that the operator
and the operand denote. -/
theorem condition?_word_eq_some_iff {operator : Operator} {operand : String}
    {condition : Condition} :
    condition? operator.word operand = some condition ↔ operator.Denotes operand condition := by
  cases operator with
  | compare comparison =>
    have hword : condition? (Operator.compare comparison).word operand =
        some (.compare comparison operand) := by cases comparison <;> rfl
    rw [hword, Option.some.injEq]
    constructor
    · rintro rfl
      exact .compare comparison operand
    · rintro ⟨⟩
      rfl
  | pattern matching =>
    have hword : condition? (Operator.pattern matching).word operand =
        some (.matches matching (Text.substitute '*' '%' operand)) := by cases matching <;> rfl
    have hpattern : (Text.substitute '*' '%' operand).toList =
        operand.toList.map fun c => if c = '*' then '%' else c := by
      simp [Text.substitute, String.toList_map]
    rw [hword, Option.some.injEq]
    constructor
    · rintro rfl
      exact .pattern matching operand _ hpattern
    · rintro (_ | ⟨_, _, glob, h⟩)
      rw [String.toList_inj.mp (hpattern.trans h.symm)]
  | is =>
    simp only [condition?, Operator.word]
    constructor
    · intro h
      split at h
      case h_1 => cases h; exact .yes
      case h_2 => cases h; exact .no
      case h_3 => cases h; exact .null
      case h_4 => cases h
    · rintro ⟨⟩ <;> rfl
  | among =>
    have hword : condition? Operator.among.word operand = (items? operand).map .among := rfl
    rw [hword, Option.map_eq_some_iff]
    constructor
    · rintro ⟨items, hitems, rfl⟩
      obtain ⟨inner, hinner, hne, hpieces⟩ := items?_eq_some_iff.mp hitems
      exact .among hinner hne hpieces
    · rintro (_ | _ | _ | _ | _ | ⟨hinner, hne, hpieces⟩)
      exact ⟨_, items?_eq_some_iff.mpr ⟨_, hinner, hne, hpieces⟩, rfl⟩

/-- An operator takes an operand exactly when the two ask for some condition. -/
theorem Operator.takes_iff {operator : Operator} {operand : String} :
    operator.Takes operand ↔ ∃ condition, operator.Denotes operand condition := by
  constructor
  · intro h
    cases operator with
    | compare comparison => exact ⟨_, .compare comparison operand⟩
    | pattern matching => exact ⟨_, .pattern matching operand _ (String.toList_ofList)⟩
    | is => rcases h with rfl | rfl | rfl <;> exact ⟨_, by constructor⟩
    | among =>
      obtain ⟨inner, hinner, hne⟩ := h
      exact ⟨_, .among hinner hne (commaPieces_iff.mpr rfl)⟩
  · rintro ⟨condition, (_ | _ | _ | _ | _ | ⟨hinner, hne, _⟩)⟩
    · trivial
    · trivial
    · exact .inl rfl
    · exact .inr (.inl rfl)
    · exact .inr (.inr rfl)
    · exact ⟨_, hinner, hne⟩

/-- Only the words of operators make conditions. -/
theorem exists_word_of_condition? {word operand : String} {condition : Condition}
    (h : condition? word operand = some condition) :
    ∃ operator : Operator, word = operator.word := by
  unfold condition? at h
  split at h
  case h_1 => exact ⟨.compare .eq, rfl⟩
  case h_2 => exact ⟨.compare .neq, rfl⟩
  case h_3 => exact ⟨.compare .lt, rfl⟩
  case h_4 => exact ⟨.compare .gt, rfl⟩
  case h_5 => exact ⟨.compare .lte, rfl⟩
  case h_6 => exact ⟨.compare .gte, rfl⟩
  case h_7 => exact ⟨.pattern .like, rfl⟩
  case h_8 => exact ⟨.pattern .ilike, rfl⟩
  case h_9 => exact ⟨.is, rfl⟩
  case h_10 => exact ⟨.among, rfl⟩
  case h_11 => simp at h

/-! ## Reading -/

/-- What is read of a negation, an operator and an operand. -/
theorem read?_clauseText (column : String) (negated : Bool) (operator : Operator)
    (operand : String) :
    read? column (clauseText negated operator operand) =
      (condition? operator.word operand).map fun condition => { column, negated, condition } := by
  cases negated with
  | false =>
    have htext : clauseText false operator operand = operator.word ++ "." ++ operand :=
      String.empty_append
    rw [htext, read?]
    simp only [operator.dropStart?_word, operator.cut?_word, Option.bind_eq_bind,
      Option.bind_some]
    rw [Option.map_eq_bind]
    rfl
  | true =>
    have hdrop : Text.dropStart? "not." (clauseText true operator operand) =
        some (operator.word ++ "." ++ operand) := Text.dropStart?_eq_some_iff.mpr rfl
    rw [read?]
    simp only [hdrop, operator.cut?_word, Option.bind_eq_bind, Option.bind_some]
    rw [Option.map_eq_bind]
    rfl

/-- What is read was written as a negation, an operator and an operand. -/
theorem exists_clauseText_of_read? {column value : String} {filter : Filter}
    (h : read? column value = some filter) :
    filter.column = column ∧ ∃ operator operand,
      value = clauseText filter.negated operator operand ∧
        operator.Denotes operand filter.condition := by
  -- The text after the negation, if there is one, is cut at its first dot.
  have hform : ∀ {negated : Bool} {positive word operand : String} {condition : Condition},
      value = (if negated then "not." else "") ++ positive →
      Text.cut? "." positive = some (word, operand) →
      condition? word operand = some condition →
      ∃ operator operand', value = clauseText negated operator operand' ∧
        operator.Denotes operand' condition := by
    intro negated positive word operand condition hvalue hcut hcondition
    obtain ⟨operator, rfl⟩ := exists_word_of_condition? hcondition
    refine ⟨operator, operand, ?_, condition?_word_eq_some_iff.mp hcondition⟩
    rw [hvalue, Text.eq_append_of_cut? hcut, clauseText]
  unfold read? at h
  cases hdrop : Text.dropStart? "not." value with
  | some rest =>
    simp only [hdrop, Option.bind_eq_bind, Option.bind_eq_some_iff] at h
    obtain ⟨⟨word, operand⟩, hcut, condition, hcondition, hfilter⟩ := h
    cases hfilter
    exact ⟨rfl, hform (Text.dropStart?_eq_some_iff.mp hdrop) hcut hcondition⟩
  | none =>
    simp only [hdrop, Option.bind_eq_bind, Option.bind_eq_some_iff] at h
    obtain ⟨⟨word, operand⟩, hcut, condition, hcondition, hfilter⟩ := h
    cases hfilter
    exact ⟨rfl, hform String.empty_append.symm hcut hcondition⟩

/-- The reader accepts exactly the texts of the grammar, and gives the filter on the column
that the text asks for. -/
theorem read?_eq_some_iff {column value : String} {filter : Filter} :
    read? column value = some filter ↔
      filter.column = column ∧ ∃ operator operand,
        value = clauseText filter.negated operator operand ∧
          operator.Denotes operand filter.condition := by
  constructor
  · exact exists_clauseText_of_read?
  · rintro ⟨rfl, operator, operand, rfl, hdenotes⟩
    rw [read?_clauseText, condition?_word_eq_some_iff.mpr hdenotes]
    rfl

/-- A value is read exactly when it is a clause whose operator takes its operand. -/
theorem isSome_read?_iff {column value : String} :
    (read? column value).isSome ↔
      ∃ negated operator operand,
        value = clauseText negated operator operand ∧ operator.Takes operand := by
  rw [Option.isSome_iff_exists]
  constructor
  · rintro ⟨filter, hfilter⟩
    obtain ⟨-, operator, operand, hvalue, hdenotes⟩ := read?_eq_some_iff.mp hfilter
    exact ⟨_, operator, operand, hvalue, Operator.takes_iff.mpr ⟨_, hdenotes⟩⟩
  · rintro ⟨negated, operator, operand, hvalue, htakes⟩
    obtain ⟨condition, hdenotes⟩ := Operator.takes_iff.mp htakes
    exact ⟨⟨column, negated, condition⟩,
      read?_eq_some_iff.mpr ⟨rfl, operator, operand, hvalue, hdenotes⟩⟩

/-- Items without commas, written as a list in parentheses, are read back, unless they make the
empty list. -/
theorem read?_list {items : List String} (column : String) (hitems : items ≠ [])
    (hempty : items ≠ [""]) (hcomma : ∀ item ∈ items, ',' ∉ item.toList) :
    read? column ("in.(" ++ String.intercalate "," items ++ ")") =
      some { column, negated := false, condition := .among items } := by
  have hpieces : CommaPieces (String.intercalate "," items) items := ⟨hitems, hcomma, rfl⟩
  have hne : String.intercalate "," items ≠ "" := by
    intro h
    -- The only piece of the empty text is the empty text.
    rw [h, commaPieces_iff] at hpieces
    exact hempty hpieces.symm
  refine read?_eq_some_iff.mpr ⟨rfl, .among, "(" ++ String.intercalate "," items ++ ")", ?_,
    .among (.pair _) hne hpieces⟩
  apply String.toList_inj.mp
  simp [clauseText, Operator.word]

/-- The reader decides the grammar: it accepts exactly the clauses whose operator takes the
operand, gives the filter that the clause asks for, a text is a clause in at most one way, and a
list of items without commas that is not empty as a text is read back. -/
theorem read?_decides_grammar (column value : String) :
    ((read? column value).isSome ↔
      ∃ negated operator operand,
        value = clauseText negated operator operand ∧ operator.Takes operand) ∧
    (∀ filter, read? column value = some filter ↔
      filter.column = column ∧ ∃ operator operand,
        value = clauseText filter.negated operator operand ∧
          operator.Denotes operand filter.condition) ∧
    (∀ negated negated' operator operator' operand operand',
      value = clauseText negated operator operand →
      value = clauseText negated' operator' operand' →
      negated = negated' ∧ operator = operator' ∧ operand = operand') ∧
    (∀ items : List String, items ≠ [] → items ≠ [""] → (∀ item ∈ items, ',' ∉ item.toList) →
      read? column ("in.(" ++ String.intercalate "," items ++ ")") =
        some { column, negated := false, condition := .among items }) := by
  refine ⟨isSome_read?_iff, fun filter => read?_eq_some_iff, ?_, ?_⟩
  · rintro negated negated' operator operator' operand operand' rfl h
    exact clauseText_inj h
  · exact fun items => read?_list column

/-- A list with an empty last item, which the grammar admits. -/
theorem read?_decides_grammar_trailing :
    (["x", ""] ≠ [] ∧ ["x", ""] ≠ [""] ∧ ∀ item ∈ ["x", ""], ',' ∉ item.toList) ∧
      read? "tags" ("in.(" ++ String.intercalate "," ["x", ""] ++ ")") =
        some { column := "tags", negated := false, condition := .among ["x", ""] } := by
  have h : ["x", ""] ≠ [] ∧ ["x", ""] ≠ [""] ∧ ∀ item ∈ ["x", ""], ',' ∉ item.toList := by decide
  exact ⟨h, (read?_decides_grammar "tags" "in.(x,)").2.2.2 _ h.1 h.2.1 h.2.2⟩

/-- Without any item the list in parentheses is empty and is not read back. -/
theorem read?_list_nil :
    ¬ ∀ (column : String) (items : List String), items ≠ [""] →
      (∀ item ∈ items, ',' ∉ item.toList) →
      read? column ("in.(" ++ String.intercalate "," items ++ ")") =
        some { column, negated := false, condition := .among items } := by
  intro h
  have hread := h "tags" [] (by decide) (by simp)
  exact absurd hread (by decide)

end RelationGateway.Filter
