import Mathlib.Data.List.Basic
import RelationGateway.Text.Case
import RelationGateway.Text.Trim

/-!
# Trimming and the case of letters

* `Unpadded`, `trim_eq_self`: a text without blanks around it is not trimmed;
* `Unbroken`: the text has no line breaks;
* `lower_eq_lower_iff`, `sameIgnoringCase_iff`: names are compared character by character.
-/

namespace RelationGateway.Text

/-- The text neither begins nor ends with a blank character. -/
structure Unpadded (s : String) : Prop where
  /-- The first character is not blank. -/
  head : ∀ c ∈ s.toList.head?, ¬ isBlank c
  /-- The last character is not blank. -/
  last : ∀ c ∈ s.toList.getLast?, ¬ isBlank c

-- Only the two characters are looked at, not every character that might be one of them.
instance (s : String) : Decidable (Unpadded s) :=
  have := Option.decidableForallMem (p := fun c => ¬ isBlank c) s.toList.head?
  have := Option.decidableForallMem (p := fun c => ¬ isBlank c) s.toList.getLast?
  decidable_of_iff
    ((∀ c ∈ s.toList.head?, ¬ isBlank c) ∧ ∀ c ∈ s.toList.getLast?, ¬ isBlank c)
    ⟨fun ⟨hhead, hlast⟩ => ⟨hhead, hlast⟩, fun h => ⟨h.head, h.last⟩⟩

/-- Between texts without blanks around them any text may stand. -/
theorem Unpadded.enclose {s t : String} (hs : Unpadded s) (ht : Unpadded t) (hsne : s.toList ≠ [])
    (htne : t.toList ≠ []) (middle : String) : Unpadded (s ++ middle ++ t) := by
  constructor
  · rw [String.toList_append, String.toList_append, List.append_assoc,
      List.head?_append_of_ne_nil _ hsne]
    exact hs.head
  · rw [String.toList_append, List.getLast?_append_of_ne_nil _ htne]
    exact ht.last

/-- Joining texts without blanks around them puts none around the whole. -/
theorem Unpadded.append {s t : String} (hs : Unpadded s) (ht : Unpadded t) : Unpadded (s ++ t) := by
  constructor
  · rw [String.toList_append, List.head?_append]
    intro c hc
    rcases Option.or_eq_some_iff.mp hc with hc | ⟨-, hc⟩
    · exact hs.head c hc
    · exact ht.head c hc
  · rw [String.toList_append, List.getLast?_append]
    intro c hc
    rcases Option.or_eq_some_iff.mp hc with hc | ⟨-, hc⟩
    · exact ht.last c hc
    · exact hs.last c hc

/-- Nothing is dropped from a list whose first element is to be kept. -/
theorem dropWhile_eq_self {α : Type} {p : α → Bool} {xs : List α}
    (hhead : ∀ x ∈ xs.head?, ¬ p x) : xs.dropWhile p = xs := by
  cases xs with
  | nil => rfl
  | cons x rest => exact List.dropWhile_cons_of_neg (hhead x rfl)

/-- Nothing is trimmed from a text whose first and last characters are to be kept. -/
theorem trimBy_eq_self {p : Char → Bool} {s : String} (hhead : ∀ c ∈ s.toList.head?, ¬ p c)
    (hlast : ∀ c ∈ s.toList.getLast?, ¬ p c) : trimBy p s = s := by
  have hreverse : ∀ c ∈ s.toList.reverse.head?, ¬ p c := by
    intro c hc
    rw [List.head?_reverse] at hc
    exact hlast c hc
  rw [trimBy, trimEndBy, trimStartBy, String.toList_ofList, dropWhile_eq_self hhead,
    dropWhile_eq_self hreverse, List.reverse_reverse, String.ofList_toList]

/-- A character to be trimmed is trimmed in front of any text. -/
theorem trimBy_append_of_pos {p : Char → Bool} {front : String} {c : Char}
    (hfront : front.toList = [c]) (hc : p c) (s : String) : trimBy p (front ++ s) = trimBy p s := by
  have hdrop : (c :: s.toList).dropWhile p = s.toList.dropWhile p := List.dropWhile_cons_of_pos hc
  rw [trimBy, trimStartBy, String.toList_append, hfront, List.singleton_append, hdrop]
  rfl

/-- A text without blanks around it is not trimmed. -/
theorem trim_eq_self {s : String} (h : Unpadded s) : trim s = s := trimBy_eq_self h.head h.last

/-- What does not begin with a blank character is trimmed at its end alone. -/
theorem trim_eq_trimEnd {s : String} (hhead : ∀ c ∈ s.toList.head?, ¬ isBlank c) :
    trim s = trimEnd s := by
  rw [trim, trimBy, trimStartBy, dropWhile_eq_self hhead, String.ofList_toList]
  rfl

/-- A text without blanks around it is not trimmed at its end. -/
theorem trimEnd_eq_self {s : String} (h : Unpadded s) : trimEnd s = s :=
  (trim_eq_trimEnd h.head).symm.trans (trim_eq_self h)

/-- Nothing is trimmed in front of a character that is not blank. -/
theorem trimEnd_append {delimiter : String} {c : Char} (hdelimiter : delimiter.toList = [c])
    (hc : ¬ isBlank c) (before after : String) :
    trimEnd (before ++ delimiter ++ after) = before ++ delimiter ++ trimEnd after := by
  have hbefore : (c :: before.toList.reverse).dropWhile isBlank = c :: before.toList.reverse :=
    List.dropWhile_cons_of_neg hc
  apply String.toList_inj.mp
  simp only [trimEnd, trimEndBy, String.toList_ofList, String.toList_append, hdelimiter,
    List.reverse_append, List.reverse_singleton, List.singleton_append]
  rw [List.dropWhile_append, hbefore]
  split
  next hempty => simp [List.isEmpty_iff.mp hempty]
  next => simp

/-- A blank character at the end of a text is trimmed. -/
theorem trimEnd_append_of_isBlank {back : String} {c : Char} (hback : back.toList = [c])
    (hc : isBlank c) (s : String) : trimEnd (s ++ back) = trimEnd s := by
  rw [trimEnd, trimEndBy, String.toList_append, hback, List.reverse_concat,
    List.dropWhile_cons_of_pos hc]
  rfl

/-- Trimming the end of a text puts nothing into it. -/
theorem mem_of_mem_trimEnd {s : String} {c : Char} (h : c ∈ (trimEnd s).toList) : c ∈ s.toList := by
  rw [trimEnd, trimEndBy, String.toList_ofList, List.mem_reverse] at h
  exact List.mem_reverse.mp ((List.dropWhile_sublist isBlank).subset h)

/-- Trimming puts nothing into a text. -/
theorem mem_of_mem_trim {s : String} {c : Char} (h : c ∈ (trim s).toList) : c ∈ s.toList := by
  have hstart : c ∈ (trimStartBy isBlank s).toList := mem_of_mem_trimEnd h
  rw [trimStartBy, String.toList_ofList] at hstart
  exact (List.dropWhile_sublist isBlank).subset hstart

/-- A space in front of a text is trimmed. -/
theorem trim_space_append (s : String) : trim (" " ++ s) = trim s :=
  trimBy_append_of_pos rfl (by decide) s

/-- Texts with a separator in front of each are the texts with separators between. -/
theorem append_join_map (separator first : String) (rest : List String) :
    first ++ String.join (rest.map (separator ++ ·)) =
      String.intercalate separator (first :: rest) := by
  induction rest generalizing first with
  | nil => simp
  | cons next rest ih =>
    rw [String.intercalate_cons_cons, ← ih]
    simp [String.append_assoc]

/-- A character of texts with a text between is one of theirs or of that between. -/
theorem mem_of_mem_intercalate {separator : String} {texts : List String} {c : Char}
    (h : c ∈ (String.intercalate separator texts).toList) :
    c ∈ separator.toList ∨ ∃ text ∈ texts, c ∈ text.toList := by
  induction texts with
  | nil => simp at h
  | cons first rest ih =>
    by_cases hrest : rest = []
    · rw [hrest, String.intercalate_singleton] at h
      exact .inr ⟨first, List.mem_cons_self, h⟩
    · rw [String.intercalate_cons_of_ne_nil hrest, String.toList_append, String.toList_append,
        List.mem_append, List.mem_append] at h
      rcases h with (hfirst | hseparator) | hmore
      · exact .inr ⟨first, List.mem_cons_self, hfirst⟩
      · exact .inl hseparator
      · refine (ih hmore).imp_right ?_
        rintro ⟨text, htext, hc⟩
        exact ⟨text, List.mem_cons_of_mem first htext, hc⟩

/-- What holds of the characters with numbers below a bound, one by one, holds of all of them. -/
theorem forall_toNat_lt {P : Char → Prop} {bound : Nat} (h : ∀ n < bound, P (Char.ofNat n)) :
    ∀ c : Char, c.toNat < bound → P c := by
  intro c hc
  have hc := h c.toNat hc
  rwa [Char.ofNat_toNat] at hc

/-- Letters and digits are ASCII characters. -/
theorem toNat_lt_of_isAlphanum {c : Char} (h : c.isAlphanum) : c.toNat < 127 := by
  delta Char.isAlphanum Char.isAlpha Char.isUpper Char.isLower Char.isDigit at h
  simp only [Bool.or_eq_true, Bool.and_eq_true, decide_eq_true_eq, UInt32.le_iff_toNat_le] at h
  simp at h
  omega

/-- The text holds no line break. -/
def Unbroken (s : String) : Prop :=
  ∀ c ∈ s.toList, c ≠ '\r' ∧ c ≠ '\n'

instance (s : String) : Decidable (Unbroken s) :=
  List.decidableBAll (fun c => c ≠ '\r' ∧ c ≠ '\n') s.toList

/-- Joining texts without line breaks makes none. -/
theorem Unbroken.append {s t : String} (hs : Unbroken s) (ht : Unbroken t) :
    Unbroken (s ++ t) := by
  intro c hc
  rcases List.mem_append.mp (String.toList_append ▸ hc) with hc | hc
  · exact hs c hc
  · exact ht c hc

/-- A text without line breaks holds neither of their characters. -/
theorem Unbroken.not_mem {s : String} (hs : Unbroken s) : '\r' ∉ s.toList ∧ '\n' ∉ s.toList :=
  ⟨fun hc => (hs _ hc).1 rfl, fun hc => (hs _ hc).2 rfl⟩

/-! ## Small letters and capitals -/

section Case

variable {c : Char}

theorem toLower_eq_of_not_isUpper (h : ¬ c.isUpper) : c.toLower = c := by
  delta Char.isUpper at h
  delta Char.toLower
  grind

theorem toUpper_eq_of_not_isLower (h : ¬ c.isLower) : c.toUpper = c := by
  delta Char.isLower at h
  delta Char.toUpper
  grind

theorem not_isUpper_toLower (c : Char) : ¬ c.toLower.isUpper := by
  delta Char.isUpper Char.toLower
  grind

theorem not_isLower_toUpper (c : Char) : ¬ c.toUpper.isLower := by
  delta Char.isLower Char.toUpper
  grind

theorem isAlpha_toLower (c : Char) : c.toLower.isAlpha = c.isAlpha := by
  delta Char.isAlpha Char.isUpper Char.isLower Char.toLower
  grind

theorem toLower_toLower (c : Char) : c.toLower.toLower = c.toLower :=
  toLower_eq_of_not_isUpper (not_isUpper_toLower c)

theorem toLower_toUpper (c : Char) : c.toUpper.toLower = c.toLower := by
  by_cases h : c.isLower
  · -- A small letter comes back from its capital.
    obtain ⟨hleast, hgreatest⟩ := Bool.and_eq_true_iff.mp h
    have hsmall : 'a'.val ≤ c.val ∧ c.val ≤ 'z'.val :=
      ⟨of_decide_eq_true hleast, of_decide_eq_true hgreatest⟩
    have hkept : ¬ (c.val ≥ 'A'.val ∧ c.val ≤ 'Z'.val) := by grind
    delta Char.toLower Char.toUpper
    rw [dif_pos hsmall, dif_neg hkept, dif_pos (by grind)]
    apply Char.ext
    grind
  · rw [toUpper_eq_of_not_isLower h]

end Case

/-- Two texts have the same small letters when their characters have. -/
theorem lower_eq_lower_iff {s t : String} :
    lower s = lower t ↔ s.toList.map Char.toLower = t.toList.map Char.toLower := by
  rw [← String.toList_inj, lower, lower, String.toList_map, String.toList_map]

/-- Two texts are the same but for the case of ASCII letters when their characters are. -/
theorem sameIgnoringCase_iff {s t : String} :
    sameIgnoringCase s t ↔ s.toList.map Char.toLower = t.toList.map Char.toLower :=
  beq_iff_eq.trans lower_eq_lower_iff

end RelationGateway.Text
