import RelationGateway.Proofs.Sql.Reading

/-!
# Templates told apart by their texts

Types of columns are any texts, so a statement cannot be read by itself. But two statements on one
relation can be read side by side: as long as their texts agree, they come from the same columns.

* `Opens`, `Apart`: words that a text begins with, and words that no text begins with both of;
* `Splits`: two templates whose texts, whatever word stands behind them, agree only if the
  templates agree in some way;
* `Splits.append`, `Splits.joined`, `Splits.clause`: templates one behind the other.
-/

namespace RelationGateway.Sql

open Template

/-! ## Words -/

/-- The text begins with one of the words. -/
def Opens (words : List String) (x : List Char) : Prop := ∃ w ∈ words, w.toList <+: x

/-- Neither word begins with the other one. -/
def Apart (v w : String) : Prop := ¬ v.toList <+: w.toList ∧ ¬ w.toList <+: v.toList

instance (v w : String) : Decidable (Apart v w) := inferInstanceAs (Decidable (_ ∧ _))

/-- More words open more texts. -/
theorem Opens.mono {words more : List String} (h : ∀ w ∈ words, w ∈ more) {x : List Char}
    (hx : Opens words x) : Opens more x :=
  let ⟨w, hw, hprefix⟩ := hx
  ⟨w, h w hw, hprefix⟩

/-- A text opens with a word that it begins with. -/
theorem opens_append {words : List String} {w : String} (hw : w ∈ words) (x : List Char) :
    Opens words (w.toList ++ x) :=
  ⟨w, hw, List.prefix_append _ _⟩

/-- No text begins with two words that are apart. -/
theorem Apart.not_both {v w : String} (h : Apart v w) {x : List Char} (hv : v.toList <+: x) :
    ¬ w.toList <+: x := fun hw =>
  (List.prefix_or_prefix_of_prefix hv hw).elim h.1 h.2

/-- No text opens with words that are apart from a word that it begins with. -/
theorem not_opens {v : String} {words : List String} (h : ∀ w ∈ words, Apart v w) {x : List Char}
    (hv : v.toList <+: x) : ¬ Opens words x := fun ⟨w, hw, hprefix⟩ =>
  (h w hw).not_both hv hprefix

/-- No word is empty, and no word begins with a character of the given kind. -/
def HeadsAvoid (p : Char → Bool) (words : List String) : Prop :=
  ∀ w ∈ words, w.toList.head?.any fun c => !p c

instance (p : Char → Bool) (words : List String) : Decidable (HeadsAvoid p words) :=
  inferInstanceAs (Decidable (∀ w ∈ words, _))

/-- A text that opens with a word begins with the first character of the word. -/
theorem HeadsAvoid.head? {p : Char → Bool} {words : List String} (h : HeadsAvoid p words)
    {x : List Char} (hx : Opens words x) : ∀ c ∈ x.head?, p c = false := by
  obtain ⟨w, hw, rest, rfl⟩ := hx
  have hhead := h w hw
  cases hchars : w.toList with
  | nil => simp [hchars] at hhead
  | cons c more => simpa [hchars] using hhead

/-! ## Names and numbers -/

/-- The end of a name is its first quote that stands alone. -/
theorem quoted_append_inj {a b x y : List Char} (hx : x.head? ≠ some '"') (hy : y.head? ≠ some '"')
    (h : quoted a ++ '"' :: x = quoted b ++ '"' :: y) : a = b ∧ x = y := by
  have hcons (c : Char) (name : List Char) :
      quoted (c :: name) = c :: if c = '"' then '"' :: quoted name else quoted name := by
    by_cases hc : c = '"' <;> simp [quoted, hc]
  -- A name goes on behind a quote only if another quote follows.
  have hends {c : Char} {name x y : List Char} (hx : x.head? ≠ some '"') :
      '"' :: x ≠ quoted (c :: name) ++ '"' :: y := by
    rw [hcons, List.cons_append]
    intro h
    obtain ⟨rfl, rfl⟩ := List.cons.inj h
    exact hx (by simp)
  -- Both names are read character by character, and neither ends before the other.
  induction a generalizing b with
  | nil =>
    cases b with
    | nil => exact ⟨rfl, (List.cons.inj h).2⟩
    | cons d b => exact absurd h (hends hx)
  | cons c a ih =>
    cases b with
    | nil => exact absurd h.symm (hends hy)
    | cons d b =>
      rw [hcons, hcons, List.cons_append, List.cons_append] at h
      obtain ⟨rfl, hrest⟩ := List.cons.inj h
      have hnext : quoted a ++ '"' :: x = quoted b ++ '"' :: y := by
        split at hrest
        · exact (List.cons.inj hrest).2
        · exact hrest
      obtain ⟨rfl, rfl⟩ := ih hnext
      exact ⟨rfl, rfl⟩

/-- A text in quotes is the name and what stands behind it. -/
theorem quote_append_inj {a b : String} {x y : List Char} (hx : x.head? ≠ some '"')
    (hy : y.head? ≠ some '"') (h : (quote a).toList ++ x = (quote b).toList ++ y) :
    a = b ∧ x = y := by
  rw [toList_quote_append, toList_quote_append] at h
  obtain ⟨hname, hrest⟩ := quoted_append_inj hx hy (List.cons.inj h).2
  exact ⟨String.toList_inj.mp hname, hrest⟩

/-- A text of digits is a number and what stands behind it. -/
theorem toString_append_inj {m n : Nat} {x y : List Char} (hx : ∀ c ∈ x.head?, c.isDigit = false)
    (hy : ∀ c ∈ y.head?, c.isDigit = false)
    (h : (toString m).toList ++ x = (toString n).toList ++ y) : m = n ∧ x = y := by
  have hdigits (k : Nat) {z : List Char} (hz : ∀ c ∈ z.head?, c.isDigit = false) :
      ((toString k).toList ++ z).takeWhile Char.isDigit = (toString k).toList := by
    have hnone : z.takeWhile Char.isDigit = [] := by
      cases z with
      | nil => rfl
      | cons c rest => simp [hz c rfl]
    rw [List.takeWhile_append_of_pos fun c => Text.isDigit_of_mem_toString, hnone, List.append_nil]
  have hsame : (toString m).toList = (toString n).toList := by
    rw [← hdigits m hx, h, hdigits n hy]
  rw [hsame] at h
  exact ⟨Text.toString_injective (String.toList_inj.mp hsame), List.append_cancel_left h⟩

/-! ## Templates side by side -/

/-- If a text that begins with the one template and a text that begins with the other are the same,
and in both a word stands behind the template, then `P` holds, the templates have as many arguments,
and the same stands behind them. -/
def Splits (ends : List String) (t u : Template) (P : Prop) : Prop :=
  ∀ n x y, Opens ends x → Opens ends y → (t.write n).toList ++ x = (u.write n).toList ++ y →
    P ∧ t.arguments.length = u.arguments.length ∧ x = y

/-- A template in front of one of some words is written as a text that opens with some words. -/
def Begins (words ends : List String) (t : Template) : Prop :=
  ∀ n x, Opens ends x → Opens words ((t.write n).toList ++ x)

namespace Begins

variable {words ends : List String} {s : String} {t : Template}

/-- The template without tokens begins with what stands behind it. -/
theorem nil (h : ∀ w ∈ ends, w ∈ words) : Begins words ends [] := fun _ _ hx => hx.mono h

/-- More words may be begun with. -/
theorem mono {more : List String} (ht : Begins words ends t) (h : ∀ w ∈ words, w ∈ more) :
    Begins more ends t := fun n x hx => (ht n x hx).mono h

/-- A template begins with its first text. -/
theorem text (hs : s ∈ words) : Begins words ends (.text s :: t) := by
  intro n x _
  rw [write, String.toList_append, List.append_assoc]
  exact opens_append hs _

/-- A clause that may be missing begins with its word or with what stands behind it. -/
theorem clause {separator : String} {parts : List Template} (hs : s ∈ words)
    (ht : Begins words ends t) : Begins words ends (Select.clause s separator parts ++ t) := by
  unfold Select.clause
  split
  · exact ht
  · exact text hs

/-- A number of rows that may be missing begins with its word or with what stands behind it. -/
theorem countClause {n : Option Nat} (hs : s ∈ words) (ht : Begins words ends t) :
    Begins words ends (Select.countClause s n ++ t) := by
  cases n with
  | none => exact ht
  | some n => exact text hs

end Begins

namespace Splits

variable {ends mid : List String} {t t' u u' : Template} {P Q : Prop} {v w : String}

/-- Reading side by side does not depend on the sides. -/
theorem symm (h : Splits ends t u P) : Splits ends u t P := by
  intro n x y hx hy heq
  obtain ⟨hP, hcount, rfl⟩ := h n y x hy hx heq.symm
  exact ⟨hP, hcount.symm, rfl⟩

/-- What holds if the texts agree may be weakened. -/
theorem imp (h : Splits ends t u P) (hPQ : P → Q) : Splits ends t u Q := by
  intro n x y hx hy heq
  obtain ⟨hP, hrest⟩ := h n x y hx hy heq
  exact ⟨hPQ hP, hrest⟩

/-- Fewer words may stand behind. -/
theorem mono (h : Splits mid t u P) (hends : ∀ w ∈ ends, w ∈ mid) : Splits ends t u P :=
  fun n x y hx hy => h n x y (hx.mono hends) (hy.mono hends)

/-- Templates that differ in literals only are told apart from nothing. -/
theorem of_skeleton_eq (h : t.skeleton = u.skeleton) (hP : P) : Splits ends t u P := by
  intro n x y _ _ heq
  rw [write_eq_of_skeleton_eq h] at heq
  exact ⟨hP, length_arguments_eq h, List.append_cancel_left heq⟩

/-- Templates are read one behind the other. -/
theorem append (ht : Splits mid t t' P) (hu : P → Splits ends u u' Q) (hbegins : Begins mid ends u)
    (hbegins' : Begins mid ends u') : Splits ends (t ++ u) (t' ++ u') (P ∧ Q) := by
  intro n x y hx hy heq
  rw [write_append, write_append, String.toList_append, String.toList_append, List.append_assoc,
    List.append_assoc] at heq
  obtain ⟨hP, hcount, hrest⟩ := ht n _ _ (hbegins _ x hx) (hbegins' _ y hy) heq
  rw [hcount] at hrest
  obtain ⟨hQ, hcount', hxy⟩ := hu hP _ x y hx hy hrest
  exact ⟨⟨hP, hQ⟩, by rw [arguments_append, arguments_append, List.length_append,
    List.length_append, hcount, hcount'], hxy⟩

/-- The same template may stand in front. -/
theorem append_left (h : Splits ends u u' P) (t : Template) : Splits ends (t ++ u) (t ++ u') P := by
  intro n x y hx hy heq
  rw [write_append, write_append, String.toList_append, String.toList_append, List.append_assoc,
    List.append_assoc] at heq
  obtain ⟨hP, hcount, hxy⟩ := h _ x y hx hy (List.append_cancel_left heq)
  exact ⟨hP, by rw [arguments_append, arguments_append, List.length_append, List.length_append,
    hcount], hxy⟩

/-- The same text may stand in front. -/
theorem text (h : Splits ends t u P) : Splits ends (.text v :: t) (.text v :: u) P :=
  h.append_left [.text v]

/-- Templates that begin with words apart are told apart. -/
theorem of_begins (h : Apart v w) (ht : Begins [v] ends t) (hu : Begins [w] ends u) :
    Splits ends t u P := by
  intro n x y hx hy heq
  obtain ⟨_, hv, hprefix⟩ := ht n x hx
  obtain rfl := List.mem_singleton.mp hv
  have hopens := hu n y hy
  rw [← heq] at hopens
  exact absurd hopens (not_opens (by simpa using h) hprefix)

/-- Texts that are apart are told apart, whatever stands behind them. -/
theorem of_apart (h : Apart v w) : Splits ends (.text v :: t) (.text w :: u) P :=
  of_begins h (.text (List.mem_singleton_self v)) (.text (List.mem_singleton_self w))

/-- Nothing and a template that begins with a word apart from what may stand behind are told
apart. -/
theorem nil_begins (hbegins : Begins [w] ends u) (h : ∀ e ∈ ends, Apart w e) :
    Splits ends [] u P := by
  intro n x y hx hy heq
  obtain ⟨_, hw, hprefix⟩ := hbegins n y hy
  obtain rfl := List.mem_singleton.mp hw
  rw [← heq] at hprefix
  exact absurd hx (not_opens h hprefix)

/-- Names are told apart if no quote stands behind them. -/
theorem name (h : HeadsAvoid (· == '"') ends) (a b : String) :
    Splits ends [.name a] [.name b] (a = b) := by
  have hhead {x : List Char} (hx : Opens ends x) : x.head? ≠ some '"' := by
    intro hquote
    simpa using h.head? hx '"' hquote
  intro n x y hx hy heq
  simp only [write, String.append_empty] at heq
  obtain ⟨rfl, rfl⟩ := quote_append_inj (hhead hx) (hhead hy) heq
  exact ⟨rfl, rfl, rfl⟩

/-- Numbers are told apart if no digit stands behind them. -/
theorem number (h : HeadsAvoid Char.isDigit ends) (m n : Nat) :
    Splits ends [.text (toString m)] [.text (toString n)] (m = n) := by
  intro k x y hx hy heq
  simp only [write, String.append_empty] at heq
  obtain ⟨rfl, rfl⟩ := toString_append_inj (h.head? hx) (h.head? hy) heq
  exact ⟨rfl, rfl, rfl⟩

/-! ## Lists and clauses -/

section

variable {α β : Type} {separator lead : String} {part : α → Template} {key : α → β}

/-- Templates of lists are told apart if that of the empty list is told from all others and these
are told from one another. -/
theorem of_lists {f : List α → Template}
    (hempty : ∀ b bs, Splits ends (f []) (f (b :: bs)) False)
    (hboth : ∀ a as b bs,
      Splits ends (f (a :: as)) (f (b :: bs)) ((a :: as).map key = (b :: bs).map key))
    (as bs : List α) : Splits ends (f as) (f bs) (as.map key = bs.map key) := by
  rcases as with _ | ⟨a, as⟩ <;> rcases bs with _ | ⟨b, bs⟩
  · exact .of_skeleton_eq rfl rfl
  · exact (hempty b bs).imp False.elim
  · exact (hempty a as).symm.imp False.elim
  · exact hboth a as b bs

/-- Lists of templates with a text between are read part by part, if what stands between two parts
is apart from what may stand behind the list. -/
theorem joined (hpart : ∀ a b, Splits (lead :: ends) (part a) (part b) (key a = key b))
    (hlead : ∀ a t, Begins [lead] ends (.text separator :: (part a ++ t)))
    (happart : ∀ e ∈ ends, Apart lead e) (a : α) (as : List α) (b : α) (bs : List α) :
    Splits ends (Template.joined separator ((a :: as).map part))
      (Template.joined separator ((b :: bs).map part))
      ((a :: as).map key = (b :: bs).map key) := by
  have hone (a : α) : Template.joined separator ([a].map part) = part a := joined_singleton ..
  have hcons (a c : α) (rest : List α) : Template.joined separator ((a :: c :: rest).map part) =
      part a ++ .text separator :: Template.joined separator ((c :: rest).map part) :=
    joined_cons_cons ..
  have hnext (c : α) (rest : List α) : Begins [lead] ends
      (.text separator :: Template.joined separator ((c :: rest).map part)) := by
    obtain ⟨t, ht⟩ := exists_joined_cons separator (part c) (rest.map part)
    rw [List.map_cons, ht]
    exact hlead c t
  have hmore (c : α) (rest : List α) : Begins (lead :: ends) ends
      (.text separator :: Template.joined separator ((c :: rest).map part)) :=
    (hnext c rest).mono (by simp)
  have hlast : Begins (lead :: ends) ends [] := .nil fun _ => List.mem_cons_of_mem _
  -- Both lists are read part by part, and what stands behind a part tells whether another follows.
  induction as generalizing a b bs with
  | nil =>
    rcases bs with _ | ⟨d, bs⟩
    · rw [hone, hone]
      have hboth := (hpart a b).mono fun _ => List.mem_cons_of_mem lead
      exact hboth.imp (congrArg fun k => [k])
    · -- The first list ends where the other goes on, and there the texts part.
      have hend := (hpart a b).append (Q := False)
        (fun _ => .nil_begins (hnext d bs) happart) hlast (hmore d bs)
      rw [hone, hcons, ← List.append_nil (part a)]
      exact hend.imp fun h => h.2.elim
  | cons c as ih =>
    rcases bs with _ | ⟨d, bs⟩
    · have hend := (hpart a b).append (Q := False)
        (fun _ => (nil_begins (hnext c as) happart).symm) (hmore c as) hlast
      rw [hone, hcons, ← List.append_nil (part b)]
      exact hend.imp fun h => h.2.elim
    · have hboth := (hpart a b).append (fun _ => (ih c d bs).text) (hmore c as) (hmore d bs)
      rw [hcons, hcons]
      exact hboth.imp fun ⟨hkey, hkeys⟩ => List.cons_eq_cons.mpr ⟨hkey, hkeys⟩

/-- A clause is read with what stands behind it, if its word is apart from that. -/
theorem clause {word : String}
    (hjoined : ∀ a as b bs, Splits ends (Template.joined separator ((a :: as).map part))
      (Template.joined separator ((b :: bs).map part)) ((a :: as).map key = (b :: bs).map key))
    (hword : ∀ e ∈ ends, Apart word e) (as bs : List α) :
    Splits ends (Select.clause word separator (as.map part))
      (Select.clause word separator (bs.map part)) (as.map key = bs.map key) := by
  let f (as : List α) : Template := Select.clause word separator (as.map part)
  have hempty (b : α) (bs : List α) : Splits ends (f []) (f (b :: bs)) False :=
    .nil_begins (.text (List.mem_singleton_self word)) hword
  exact of_lists hempty (fun a as b bs => (hjoined a as b bs).text) as bs

end

/-- A number of rows is read with what stands behind it, if its word is apart from that. -/
theorem countClause {word : String} (hword : ∀ e ∈ ends, Apart word e) (m n : Option Nat) :
    Splits ends (Select.countClause word m) (Select.countClause word n) (m.isSome = n.isSome) := by
  have hbegins (t : Template) : Begins [word] ends (.text word :: t) :=
    .text (List.mem_singleton_self word)
  cases m <;> cases n
  · exact .of_skeleton_eq rfl rfl
  · exact .nil_begins (hbegins _) hword
  · exact (nil_begins (hbegins _) hword).symm
  · exact .of_skeleton_eq rfl rfl

end Splits

end RelationGateway.Sql
