import RelationGateway.Proofs.Sql.Reading
import RelationGateway.Proofs.Text.Basic

/-!
# Words outside of names and parentheses

A reader of a statement keeps count of the parentheses that are open and of whether it is in a name.
So it finds the words that stand outside of both, and the statement from which another one takes its
rows.

* `Nesting`, `Balanced`: where a reader stands, and texts that close what they open;
* `keywords`, `source?`: the words and the inner statement that are read;
* `keywords_append`: the words of texts one after the other;
* `upToClosing?_append`: what is balanced is read past.
-/

namespace RelationGateway.Sql

/-- Where a reader stands: how many parentheses are open, and whether it is in a name. -/
structure Nesting where
  /-- The number of open parentheses. -/
  depth : Nat := 0
  /-- The reader is in a name. -/
  quoted : Bool := false
deriving DecidableEq, Repr

namespace Nesting

/-- Where a reader stands behind a character. A parenthesis that closes none leads nowhere. -/
def step? (n : Nesting) (c : Char) : Option Nesting :=
  if n.quoted then some { n with quoted := c != '"' }
  else if c = '"' then some { n with quoted := true }
  else if c = '(' then some { n with depth := n.depth + 1 }
  else if c = ')' then if n.depth = 0 then none else some { n with depth := n.depth - 1 }
  else some n

/-- Where a reader stands behind a text. -/
def after? (n : Nesting) (s : List Char) : Option Nesting := s.foldlM step? n

/-- The place inside of some more parentheses. -/
def deeper (d : Nat) (n : Nesting) : Nesting := { n with depth := n.depth + d }

end Nesting

/-- All names and parentheses of the text are closed in it. -/
def Balanced (s : String) : Prop := Nesting.after? {} s.toList = some {}

instance (s : String) : Decidable (Balanced s) := inferInstanceAs (Decidable (_ = _))

/-- The character may stand in a word. -/
def isWordChar (c : Char) : Bool := c.isAlpha || c == '_'

/-- A word whose characters have been read, the last one first, if there are any. -/
def finished (word : List Char) : List String :=
  if word.isEmpty then [] else [String.ofList word.reverse]

/-- The words that are read outside of names and parentheses. The word in which the reader stands is
kept with the last character first. -/
def keywordsFrom (n : Nesting) (word : List Char) : List Char → List String
  | [] => finished word
  | c :: rest =>
    if n = {} ∧ isWordChar c then keywordsFrom n (c :: word) rest
    else finished word ++ (n.step? c).elim [] fun next => keywordsFrom next [] rest

/-- The words of a text outside of names and parentheses. -/
def keywords (s : String) : List String := keywordsFrom {} [] s.toList

/-- What stands in front of the first parenthesis that closes none. -/
def upToClosing? (n : Nesting) : List Char → Option (List Char)
  | [] => none
  | c :: rest =>
    match n.step? c with
    | some next => (upToClosing? next rest).map (c :: ·)
    | none => some []

/-- The statement from which another one takes its rows: what stands in the first parentheses
behind `FROM`. -/
def source? (sql : String) : Option String := do
  let (_, rest) ← Text.cut? " FROM (" sql
  (upToClosing? {} rest.toList).map String.ofList

example : keywords "SELECT \"LIMIT\", f(LIMIT \")\") FROM t LIMIT 1" =
    ["SELECT", "f", "FROM", "t", "LIMIT"] := by decide
example : source? "SELECT f(q) FROM (SELECT f(a) FROM \"b)\") AS q" =
    some "SELECT f(a) FROM \"b)\"" := by decide

/-! ## Balanced texts -/

namespace Nesting

variable {n n' : Nesting} {s t : List Char} {c : Char}

theorem after?_append (n : Nesting) (s t : List Char) :
    n.after? (s ++ t) = (n.after? s).bind fun next => next.after? t := List.foldlM_append

theorem after?_cons (n : Nesting) (c : Char) (s : List Char) :
    n.after? (c :: s) = (n.step? c).bind fun next => next.after? s := List.foldlM_cons

/-- A character that is no quote leads nowhere out of a name. -/
theorem step?_quoted (hc : c ≠ '"') :
    step? { quoted := true } c = some { quoted := true } := by
  simp [step?, hc]

/-- A step of the reader leads to the same place inside of more parentheses, too. -/
theorem step?_deeper (h : n.step? c = some n') (d : Nat) :
    (n.deeper d).step? c = some (n'.deeper d) := by
  simp only [step?, deeper] at h ⊢
  grind

theorem after?_deeper (h : n.after? s = some n') (d : Nat) :
    (n.deeper d).after? s = some (n'.deeper d) := by
  induction s generalizing n with
  | nil =>
    cases h
    rfl
  | cons c s ih =>
    rw [after?_cons] at h ⊢
    obtain ⟨next, hstep, hrest⟩ := Option.bind_eq_some_iff.mp h
    rw [step?_deeper hstep, Option.bind_some, ih hrest]

end Nesting

open Nesting

variable {s t : String} {n n' : Nesting}

theorem Balanced.after? (h : Balanced s) (d : Nat) :
    Nesting.after? { depth := d } s.toList = some { depth := d } := by
  have hdeeper := after?_deeper h d
  rwa [deeper, Nat.zero_add] at hdeeper

theorem Balanced.append (hs : Balanced s) (ht : Balanced t) : Balanced (s ++ t) := by
  rw [Balanced, String.toList_append, after?_append, hs]
  exact ht

/-- A text is balanced if between a part that opens a parenthesis and one that closes it stands a
balanced one. -/
theorem Balanced.enclosed {opening closing : String}
    (hopening : Nesting.after? {} opening.toList = some { depth := 1 }) (hs : Balanced s)
    (hclosing : Nesting.after? { depth := 1 } closing.toList = some {}) :
    Balanced (opening ++ s ++ closing) := by
  rw [Balanced, String.toList_append, String.toList_append, after?_append, after?_append, hopening,
    Option.bind_some, hs.after?, Option.bind_some, hclosing]

/-- A text without quotes and parentheses is balanced. -/
theorem balanced_of_not_mem (h : ∀ c ∈ s.toList, c ∉ ['"', '(', ')']) : Balanced s := by
  rw [Balanced]
  generalize s.toList = s at h
  induction s with
  | nil => rfl
  | cons c rest ih =>
    obtain ⟨hc, hrest⟩ := List.forall_mem_cons.mp h
    have hstep : Nesting.step? {} c = some {} := by
      simp only [List.mem_cons, List.not_mem_nil, or_false, not_or] at hc
      rw [step?, if_neg (by decide), if_neg hc.1, if_neg hc.2.1, if_neg hc.2.2]
    rw [after?_cons, hstep]
    exact ih hrest

/-- A reader that is in a name gets past the characters of another one. -/
theorem after?_quoted (name rest : List Char) :
    Nesting.after? { quoted := true } (quoted name ++ rest) =
      Nesting.after? { quoted := true } rest := by
  induction name with
  | nil => rfl
  | cons c name ih =>
    by_cases hc : c = '"'
    · -- The first of the two quotes closes the name, and the second opens it again.
      subst hc
      exact ih
    · rw [quoted_cons hc, List.cons_append, after?_cons, step?_quoted hc]
      exact ih

/-- A name in quotes is balanced. -/
theorem balanced_quote (name : String) : Balanced (quote name) := by
  have htext := toList_quote_append name []
  rw [List.append_nil] at htext
  rw [Balanced, htext, after?_cons]
  exact after?_quoted name.toList ['"']

/-! ## Words of texts one after the other -/

/-- The text does not begin in a word. -/
def BeginsApart (s : List Char) : Prop := ∀ c ∈ s.head?, ¬ isWordChar c

/-- No words are read inside of parentheses. -/
theorem keywordsFrom_deeper {s : List Char} (h : n.after? s = some n') (d : Nat)
    (rest : List Char) :
    keywordsFrom (n.deeper (d + 1)) [] (s ++ rest) = keywordsFrom (n'.deeper (d + 1)) [] rest := by
  induction s generalizing n with
  | nil =>
    cases h
    rfl
  | cons c s ih =>
    rw [after?_cons] at h
    obtain ⟨next, hstep, hrest⟩ := Option.bind_eq_some_iff.mp h
    have hinside : ¬ (n.deeper (d + 1) = {} ∧ isWordChar c) := by
      rintro ⟨h, -⟩
      exact absurd (congrArg Nesting.depth h) (Nat.succ_ne_zero _)
    rw [List.cons_append, keywordsFrom, if_neg hinside, step?_deeper hstep]
    exact ih hrest

/-- Behind a text that is balanced to its end, new words begin if no word goes on there. -/
theorem keywordsFrom_append {s t : List Char} (hs : n.after? s = some {}) (ht : BeginsApart t)
    (word : List Char) :
    keywordsFrom n word (s ++ t) = keywordsFrom n word s ++ keywordsFrom {} [] t := by
  induction s generalizing n word with
  | nil =>
    cases hs
    cases t with
    | nil => exact (List.append_nil _).symm
    | cons c rest =>
      have hc : ¬ (({} : Nesting) = {} ∧ isWordChar c) := fun h => ht c rfl h.2
      rw [List.nil_append, keywordsFrom, keywordsFrom, if_neg hc, keywordsFrom, if_neg hc]
      rfl
  | cons c s ih =>
    rw [after?_cons] at hs
    obtain ⟨next, hstep, hrest⟩ := Option.bind_eq_some_iff.mp hs
    rw [List.cons_append, keywordsFrom, keywordsFrom]
    split
    next hword =>
      obtain ⟨rfl, hc⟩ := hword
      -- A character of a word changes nothing about the place.
      have hsame : next = {} := by
        have hne : c ≠ '"' ∧ c ≠ '(' ∧ c ≠ ')' := by
          refine ⟨?_, ?_, ?_⟩ <;> rintro rfl <;> exact absurd hc (by decide)
        rw [step?, if_neg (by decide), if_neg hne.1, if_neg hne.2.1, if_neg hne.2.2] at hstep
        exact (Option.some.inj hstep).symm
      subst hsame
      exact ih hrest _
    next =>
      rw [hstep, Option.elim_some, Option.elim_some, ih hrest, List.append_assoc]

/-- Words of balanced texts one after the other are those of both, if the second one does not begin
in a word. -/
theorem keywords_append (hs : Balanced s) (ht : BeginsApart t.toList) :
    keywords (s ++ t) = keywords s ++ keywords t := by
  rw [keywords, String.toList_append, keywordsFrom_append hs ht]
  rfl

/-- A text is read past up to the parenthesis. -/
theorem upToClosing?_append {s : List Char} (h : n.after? s = some n') (rest : List Char) :
    upToClosing? n (s ++ rest) = (upToClosing? n' rest).map (s ++ ·) := by
  induction s generalizing n with
  | nil =>
    cases h
    exact Option.map_id'.symm
  | cons c s ih =>
    rw [after?_cons] at h
    obtain ⟨next, hstep, hrest⟩ := Option.bind_eq_some_iff.mp h
    rw [List.cons_append, upToClosing?, hstep]
    simp only [ih hrest, Option.map_map]
    rfl

/-- The text is balanced and ends outside of words, and it holds the given ones. -/
structure Leads (s : String) (words : List String) : Prop where
  /-- The text is balanced. -/
  balanced : Balanced s
  /-- Its words are read in front of those of any other text. -/
  read : ∀ rest, keywordsFrom {} [] (s.toList ++ rest) = words ++ keywordsFrom {} [] rest

/-- The text begins with a character that stands in no word. -/
def startsApart (s : String) : Bool := s.toList.head?.any fun c => !isWordChar c

theorem beginsApart_append (hs : startsApart s) (rest : List Char) :
    BeginsApart (s.toList ++ rest) := by
  unfold startsApart at hs
  cases hlist : s.toList with
  | nil => rw [hlist] at hs; cases hs
  | cons c more =>
    rw [hlist] at hs
    rintro _ ⟨⟩
    simpa using hs

/-- There are no words in a text without their characters. -/
theorem keywords_eq_nil (h : ∀ c ∈ s.toList, ¬ isWordChar c) : keywords s = [] := by
  have hfrom : ∀ (rest : List Char) (n : Nesting), (∀ c ∈ rest, ¬ isWordChar c) →
      keywordsFrom n [] rest = [] := by
    intro rest
    induction rest with
    | nil => exact fun _ _ => rfl
    | cons c rest ih =>
      intro n hrest
      obtain ⟨hc, hrest⟩ := List.forall_mem_cons.mp hrest
      rw [keywordsFrom, if_neg fun h => hc h.2]
      cases n.step? c with
      | none => rfl
      | some next => exact ih next hrest
  exact hfrom s.toList {} h

/-- A digit is no mark of names and parentheses, and does not stand in a word. -/
theorem apart_of_isDigit {c : Char} (h : c.isDigit) : c ∉ ['"', '(', ')'] ∧ ¬ isWordChar c := by
  have hascii : c.toNat < 127 := Text.toNat_lt_of_isAlphanum (by simp [Char.isAlphanum, h])
  have hall : ∀ c : Char, c.toNat < 127 → c.isDigit → c ∉ ['"', '(', ')'] ∧ ¬ isWordChar c :=
    Text.forall_toNat_lt (by decide)
  exact hall c hascii h

/-- There are no words in a name. -/
theorem keywords_quote (name : String) : keywords (quote name) = [] := by
  have hquoted (rest : List Char) : ∀ name : List Char,
      keywordsFrom { quoted := true } [] (quoted name ++ rest) =
        keywordsFrom { quoted := true } [] rest := by
    intro name
    induction name with
    | nil => rfl
    | cons c name ih =>
      by_cases hc : c = '"'
      · subst hc
        exact ih
      · rw [quoted_cons hc, List.cons_append, keywordsFrom, if_neg (by simp), step?_quoted hc]
        exact ih
  have htext := toList_quote_append name []
  rw [List.append_nil] at htext
  rw [keywords, htext]
  exact hquoted ['"'] name.toList

end RelationGateway.Sql
