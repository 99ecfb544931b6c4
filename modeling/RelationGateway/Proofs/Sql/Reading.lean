import Mathlib.Data.List.Chain
import RelationGateway.Proofs.Sql.Skeleton
import RelationGateway.Proofs.Text.Numeral

/-!
# Reading statements

A statement is read from left to right. A quote opens a name, two quotes in it stand for one, and
a single quote closes it. Outside of names a dollar sign and the digits behind it are a
placeholder.

* `lexemes?`, `placeholders?`: what is read of a text;
* `Template.lexemes`: what a template is meant to be read as;
* `Template.Legible`: the texts of a template satisfy a predicate, names do not touch, and no
  digit stands behind an argument;
* `lexemesFrom_write`, `placeholders?_write`: a written template is read as it is meant, if it is
  legible with texts that hold no quotes.
-/

namespace RelationGateway.Sql

/-- What a reader sees in a statement. -/
inductive Lexeme where
  /-- A character outside of names. -/
  | char (c : Char)
  /-- A name. -/
  | name (identifier : String)
deriving DecidableEq, Repr

/-- Where a reader stands. Names are kept with the last character first. -/
inductive Place where
  /-- Outside of names. -/
  | outside
  /-- In a name of which some characters have been read. -/
  | inside (read : List Char)
  /-- Behind a quote in a name, which closes it or is the first of two. -/
  | behind (read : List Char)

/-- What is read from a place on, if the text does not end in a name. -/
def lexemesFrom : Place → List Char → Option (List Lexeme)
  | .outside, [] => some []
  | .inside _, [] => none
  | .behind read, [] => some [.name (String.ofList read.reverse)]
  | .outside, c :: rest =>
    if c = '"' then lexemesFrom (.inside []) rest
    else (lexemesFrom .outside rest).map (.char c :: ·)
  | .inside read, c :: rest =>
    if c = '"' then lexemesFrom (.behind read) rest else lexemesFrom (.inside (c :: read)) rest
  | .behind read, c :: rest =>
    if c = '"' then lexemesFrom (.inside ('"' :: read)) rest
    else (lexemesFrom .outside rest).map fun more =>
      .name (String.ofList read.reverse) :: .char c :: more

/-- What is read of a statement, if it does not end in a name. -/
def lexemes? (sql : String) : Option (List Lexeme) := lexemesFrom .outside sql.toList

/-- The digits that stand next. -/
def digitsAhead : List Lexeme → List Char
  | .char c :: rest => if c.isDigit then c :: digitsAhead rest else []
  | _ => []

/-- The dollar signs outside of names, each with the digits behind it. -/
def placeholders : List Lexeme → List String
  | [] => []
  | .char c :: rest =>
    if c = '$' then String.ofList ('$' :: digitsAhead rest) :: placeholders rest
    else placeholders rest
  | .name _ :: rest => placeholders rest

/-- The placeholders of a statement, if it does not end in a name. -/
def placeholders? (sql : String) : Option (List String) := (lexemes? sql).map placeholders

example : lexemes? "\"a\"\"$1\" = $2" =
    some (.name "a\"$1" :: [' ', '=', ' ', '$', '2'].map .char) := by decide
example : placeholders? "\"a\"\"$1\" = $2" = some ["$2"] := by decide

/-! ## Names and texts -/

/-- A text without quotes is read character by character. -/
theorem lexemesFrom_text {s : List Char} (hs : '"' ∉ s) (rest : List Char) :
    lexemesFrom .outside (s ++ rest) =
      (lexemesFrom .outside rest).map (s.map Lexeme.char ++ ·) := by
  induction s with
  | nil => simp
  | cons c s ih =>
    obtain ⟨hc, hs⟩ := not_or.mp (mt List.mem_cons.mpr hs)
    rw [List.cons_append, lexemesFrom, if_neg (Ne.symm hc), ih hs, Option.map_map]
    rfl

/-- The characters of a name in quotes. -/
def quoted (name : List Char) : List Char := name.flatMap fun c => if c == '"' then ['"', '"'] else [c]

/-- A character that is no quote stands for itself in a name. -/
theorem quoted_cons {c : Char} (hc : c ≠ '"') (name : List Char) :
    quoted (c :: name) = c :: quoted name := by
  simp [quoted, hc]

theorem toList_quote_append (name : String) (rest : List Char) :
    (quote name).toList ++ rest = '"' :: (quoted name.toList ++ '"' :: rest) := by
  simp [quote, quoted]

/-- A name is read up to its closing quote. -/
theorem lexemesFrom_quoted (name read rest : List Char) :
    lexemesFrom (.inside read) (quoted name ++ '"' :: rest) =
      lexemesFrom (.behind (name.reverse ++ read)) rest := by
  induction name generalizing read with
  | nil => rfl
  | cons c name ih =>
    by_cases hc : c = '"'
    · -- The first of the two quotes could close the name, and the second shows that it does not.
      subst hc
      have hquoted : quoted ('"' :: name) = '"' :: '"' :: quoted name := rfl
      rw [hquoted, List.cons_append, List.cons_append, lexemesFrom, if_pos rfl, lexemesFrom,
        if_pos rfl, ih, List.reverse_cons, List.append_assoc, List.singleton_append]
    · rw [quoted_cons hc, List.cons_append, lexemesFrom, if_neg hc, ih, List.reverse_cons,
        List.append_assoc, List.singleton_append]

/-- A quote that no other follows closes the name. -/
theorem lexemesFrom_behind (read : List Char) {rest : List Char} (hrest : rest.head? ≠ some '"') :
    lexemesFrom (.behind read) rest =
      (lexemesFrom .outside rest).map (.name (String.ofList read.reverse) :: ·) := by
  cases rest with
  | nil => rfl
  | cons c rest =>
    have hc : c ≠ '"' := by simpa using hrest
    rw [lexemesFrom, if_neg hc, lexemesFrom, if_neg hc, Option.map_map]
    rfl

/-- A name in quotes is read as the name, if no quote follows. -/
theorem lexemesFrom_quote (name : String) {rest : List Char} (hrest : rest.head? ≠ some '"') :
    lexemesFrom .outside ((quote name).toList ++ rest) =
      (lexemesFrom .outside rest).map (.name name :: ·) := by
  rw [toList_quote_append, lexemesFrom, if_pos rfl, lexemesFrom_quoted, lexemesFrom_behind _ hrest,
    List.append_nil, List.reverse_reverse, String.ofList_toList]

/-! ## Templates -/

/-- The text is not empty and holds no quotes. -/
def Unquoted (s : String) : Prop := s ≠ "" ∧ '"' ∉ s.toList

/-- The text is not empty and holds neither quotes nor dollar signs. -/
def Plain (s : String) : Prop := s ≠ "" ∧ '"' ∉ s.toList ∧ '$' ∉ s.toList

instance (s : String) : Decidable (Plain s) := inferInstanceAs (Decidable (_ ∧ _ ∧ _))

theorem Plain.unquoted {s : String} (h : Plain s) : Unquoted s := ⟨h.1, h.2.1⟩

/-- The text does not begin with a digit. -/
def BeginsBare (s : String) : Prop := ∀ c ∈ s.toList.head?, ¬ c.isDigit

instance (s : String) : Decidable (BeginsBare s) :=
  have := Option.decidableForallMem (p := fun c : Char => ¬ c.isDigit) s.toList.head?
  decidable_of_iff (∀ c ∈ s.toList.head?, ¬ c.isDigit) Iff.rfl

/-- The token may stand in front of the other one: names do not touch, and no digit stands behind
an argument. -/
def Token.Before : Token → Token → Prop
  | .name _, .name _ => False
  | .argument _, .text s => BeginsBare s
  | _, _ => True

namespace Template

/-- What a template whose first argument has number `n` is meant to be read as. -/
def lexemes : (n : Nat) → Template → List Lexeme
  | _, [] => []
  | n, .text s :: rest => s.toList.map .char ++ lexemes n rest
  | n, .name identifier :: rest => .name identifier :: lexemes n rest
  | n, .argument _ :: rest => ('$' :: (toString n).toList).map .char ++ lexemes (n + 1) rest

/-- All texts of a template satisfy a predicate, and its tokens may stand as they do. -/
structure Legible (P : String → Prop) (t : Template) : Prop where
  /-- The texts satisfy the predicate. -/
  texts : ∀ s, .text s ∈ t → P s
  /-- Each token may stand in front of the next one. -/
  chain : t.IsChain Token.Before

/-- What stands behind the first token is legible. -/
theorem Legible.tail {P : String → Prop} {token : Token} {t : Template}
    (h : Legible P (token :: t)) : Legible P t :=
  ⟨fun s hs => h.texts s (List.mem_cons_of_mem _ hs), h.chain.tail⟩

/-- A weaker predicate makes as much legible. -/
theorem Legible.mono {P Q : String → Prop} (hPQ : ∀ s, P s → Q s) {t : Template}
    (h : Legible P t) : Legible Q t :=
  ⟨fun s hs => hPQ s (h.texts s hs), h.chain⟩

/-- What stands in front of a part of a legible template is legible. -/
theorem Legible.left {P : String → Prop} {t u : Template} (h : Legible P (t ++ u)) : Legible P t :=
  ⟨fun s hs => h.texts s (List.mem_append_left _ hs), h.chain.left_of_append⟩

/-- A template is written piece by piece, and numbers go on. -/
theorem write_append (n : Nat) (t u : Template) :
    write n (t ++ u) = write n t ++ write (n + t.arguments.length) u := by
  induction t generalizing n with
  | nil => simp [write]
  | cons token rest ih =>
    cases token with
    | text s => simp only [List.cons_append, write, ih, arguments_text, String.append_assoc]
    | name s => simp only [List.cons_append, write, ih, arguments_name, String.append_assoc]
    | argument value =>
      simp only [List.cons_append, write, ih, arguments_argument, List.length_cons,
        String.append_assoc, Nat.add_assoc, Nat.add_comm]

/-- Templates one after the other are read one after the other. -/
theorem lexemes_append (n : Nat) (t u : Template) :
    lexemes n (t ++ u) = lexemes n t ++ lexemes (n + t.arguments.length) u := by
  induction t generalizing n with
  | nil => simp [lexemes]
  | cons token rest ih =>
    cases token with
    | text s => simp only [List.cons_append, lexemes, ih, arguments_text, List.append_assoc]
    | name s => simp only [List.cons_append, lexemes, ih, arguments_name]
    | argument value =>
      simp only [List.cons_append, lexemes, ih, arguments_argument, List.length_cons,
        List.append_assoc, Nat.add_assoc, Nat.add_comm]

/-- What is written of a template behind a name does not begin with a quote. -/
theorem head?_write_ne {identifier : String} {t : Template}
    (h : Legible Unquoted (.name identifier :: t)) (n : Nat) :
    (t.write n).toList.head? ≠ some '"' := by
  cases t with
  | nil => simp [write]
  | cons token rest =>
    cases token with
    | name s => exact absurd (List.isChain_cons_cons.mp h.chain).1 not_false
    | argument value => simp [write]
    | text s =>
      obtain ⟨hne, hquote⟩ := h.tail.texts s List.mem_cons_self
      obtain ⟨c, more, hs⟩ := List.exists_cons_of_ne_nil (mt String.toList_eq_nil_iff.mp hne)
      rw [write, String.toList_append, hs]
      rintro ⟨⟩
      exact hquote (by simp [hs])

/-- A written template is read as it is meant. -/
theorem lexemesFrom_write {t : Template} (h : Legible Unquoted t) (n : Nat) :
    lexemesFrom .outside (t.write n).toList = some (t.lexemes n) := by
  induction t generalizing n with
  | nil => simp [write, lexemes, lexemesFrom]
  | cons token rest ih =>
    have ih := ih h.tail
    cases token with
    | text s =>
      rw [write, String.toList_append, lexemesFrom_text (h.texts s List.mem_cons_self).2, ih]
      rfl
    | argument value =>
      have hdigits : '"' ∉ ("$" ++ toString n).toList := by
        rw [String.toList_append, List.mem_append, not_or]
        exact ⟨by decide, fun h => absurd (Text.isDigit_of_mem_toString h) (by decide)⟩
      rw [write, String.toList_append, lexemesFrom_text hdigits, ih, String.toList_append]
      rfl
    | name s =>
      rw [write, String.toList_append, lexemesFrom_quote s (head?_write_ne h n), ih]
      rfl

/-- The digits of a number are read up to what stands behind them. -/
theorem digitsAhead_toString (n : Nat) {rest : List Lexeme} (hrest : digitsAhead rest = []) :
    digitsAhead ((toString n).toList.map .char ++ rest) = (toString n).toList := by
  have hdigits : ∀ c ∈ (toString n).toList, c.isDigit := fun c => Text.isDigit_of_mem_toString
  generalize (toString n).toList = digits at hdigits
  induction digits with
  | nil => exact hrest
  | cons c digits ih =>
    obtain ⟨hc, hdigits⟩ := List.forall_mem_cons.mp hdigits
    rw [List.map_cons, List.cons_append, digitsAhead, if_pos hc, ih hdigits]

/-- There are no placeholders in a text without dollar signs. -/
theorem placeholders_text {s : List Char} (hs : '$' ∉ s) (rest : List Lexeme) :
    placeholders (s.map .char ++ rest) = placeholders rest := by
  induction s with
  | nil => rfl
  | cons c s ih =>
    obtain ⟨hc, hs⟩ := not_or.mp (mt List.mem_cons.mpr hs)
    rw [List.map_cons, List.cons_append, placeholders, if_neg (Ne.symm hc), ih hs]

/-- No digits stand behind an argument. -/
theorem digitsAhead_lexemes {value : String} {t : Template}
    (h : Legible Plain (.argument value :: t)) (n : Nat) : digitsAhead (t.lexemes n) = [] := by
  cases t with
  | nil => rfl
  | cons token rest =>
    cases token with
    | name s => rfl
    | argument value => rfl
    | text s =>
      obtain ⟨hne, -, -⟩ := h.tail.texts s List.mem_cons_self
      obtain ⟨c, more, hs⟩ := List.exists_cons_of_ne_nil (mt String.toList_eq_nil_iff.mp hne)
      have hc : ¬ c.isDigit := (List.isChain_cons_cons.mp h.chain).1 c (by simp [hs])
      rw [lexemes, hs, List.map_cons, List.cons_append, digitsAhead, if_neg hc]

/-- The placeholders of a template are as many as its arguments, with their numbers. -/
theorem placeholders_lexemes {t : Template} (h : Legible Plain t) (n : Nat) :
    placeholders (t.lexemes n) =
      (List.range' n t.arguments.length).map fun i => "$" ++ toString i := by
  induction t generalizing n with
  | nil => rfl
  | cons token rest ih =>
    have ih := ih h.tail
    cases token with
    | text s =>
      rw [lexemes, placeholders_text (h.texts s List.mem_cons_self).2.2, ih, arguments_text]
    | name s => rw [lexemes, placeholders, ih, arguments_name]
    | argument value =>
      have hdollar : '$' ∉ (toString n).toList := fun h =>
        absurd (Text.isDigit_of_mem_toString h) (by decide)
      have hnumber : String.ofList ('$' :: (toString n).toList) = "$" ++ toString n := by
        rw [← String.toList_inj, String.toList_ofList, String.toList_append]
        rfl
      rw [lexemes, List.map_cons, List.cons_append, placeholders, if_pos rfl,
        digitsAhead_toString n (digitsAhead_lexemes h _), placeholders_text hdollar, ih,
        arguments_argument, List.length_cons, List.range'_succ, List.map_cons, hnumber]

/-- The placeholders of a written template are the numbers of its arguments, from the first to the
last. -/
theorem placeholders?_write {t : Template} (h : Legible Plain t) (n : Nat) :
    placeholders? (t.write n) =
      some ((List.range' n t.arguments.length).map fun i => "$" ++ toString i) := by
  have hunquoted : Legible Unquoted t := h.mono fun _ => Plain.unquoted
  rw [placeholders?, lexemes?, lexemesFrom_write hunquoted, Option.map_some,
    placeholders_lexemes h]

end Template

end RelationGateway.Sql
