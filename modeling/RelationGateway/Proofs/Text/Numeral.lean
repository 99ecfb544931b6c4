import Mathlib.Data.List.Induction
import Mathlib.Data.Nat.Digits.Defs
import RelationGateway.Text.Numeral

/-!
# The value of a numeral

* `decimalValue`: the number that a row of decimal digits stands for;
* `IsNumeral`: the text is a numeral for a number up to a bound;
* `unsigned?_eq_some_iff`, `unsigned?_eq_some_iff_numeral`: what is read of a text of digits, and of
  one with a sign, is the value of a numeral;
* `isDigit_of_mem_toString`, `toString_injective`: a number is written in digits, and different
  numbers are written differently;
* `unsigned?_toString`: what is read of a number that is written is the number.
-/

namespace RelationGateway.Text

/-- The number that the characters of a text stand for as decimal digits, the last one counting
ones. -/
def decimalValue (s : String) : Nat :=
  Nat.ofDigits 10 (s.toList.reverse.map fun d => d.toNat - '0'.toNat)

/-- The text is a numeral of ASCII digits for a number up to a bound. -/
structure IsNumeral (bound : Nat) (s : String) : Prop where
  /-- There is at least one digit. -/
  ne_empty : s ≠ ""
  /-- There are only digits. -/
  isDigit : ∀ c ∈ s.toList, c.isDigit
  /-- The number is not beyond the bound. -/
  value_le : decimalValue s ≤ bound

instance (bound : Nat) (s : String) : Decidable (IsNumeral bound s) :=
  decidable_of_iff (s ≠ "" ∧ s.toList.all Char.isDigit ∧ decimalValue s ≤ bound)
    ⟨fun ⟨hne, hdigits, hle⟩ => ⟨hne, List.all_eq_true.mp hdigits, hle⟩,
      fun h => ⟨h.ne_empty, List.all_eq_true.mpr h.isDigit, h.value_le⟩⟩

variable {bound n : Nat} {s : String}

/-- Reading digits from the first to the last adds up their values. -/
theorem digitsValue?_eq (hne : s ≠ "") (hdigits : ∀ c ∈ s.toList, c.isDigit) :
    digitsValue? s.toList = some (decimalValue s) := by
  -- The last digit is read last, and it counts ones.
  have hvalue (digits : List Char) :
      digits.foldl (fun n d => 10 * n + (d.toNat - '0'.toNat)) 0 =
        Nat.ofDigits 10 (digits.reverse.map fun d => d.toNat - '0'.toNat) := by
    induction digits using List.reverseRecOn with
    | nil => rfl
    | append_singleton front last ih =>
      rw [List.foldl_append, ih, List.reverse_append, List.reverse_singleton,
        List.singleton_append, List.map_cons, Nat.ofDigits_cons]
      exact Nat.add_comm _ _
  have hne' : s.toList ≠ [] := fun h => hne (String.toList_eq_nil_iff.mp h)
  rw [digitsValue?, if_pos ⟨hne', List.all_eq_true.mpr hdigits⟩, hvalue, decimalValue]

/-- A text of digits has no sign in front of them. -/
theorem unsigned?_of_isDigit (hdigits : ∀ c ∈ s.toList, c.isDigit) :
    unsigned? bound s = (digitsValue? s.toList).filter (· ≤ bound) := by
  rw [unsigned?]
  split
  next rest hsign =>
    have hplus : '+'.isDigit = true := hdigits '+' (by rw [hsign]; exact List.mem_cons_self)
    exact absurd hplus (by decide)
  next => rfl

/-- What is read of a text of digits is the value of a numeral. -/
theorem unsigned?_eq_some_iff :
    (if isDigits s then unsigned? bound s else none) = some n ↔
      IsNumeral bound s ∧ n = decimalValue s := by
  have hisDigits : isDigits s ↔ s ≠ "" ∧ ∀ c ∈ s.toList, c.isDigit := by
    simp [isDigits]
  constructor
  · intro h
    split at h
    next hs =>
      obtain ⟨hne, hdigits⟩ := hisDigits.mp hs
      rw [unsigned?_of_isDigit hdigits, digitsValue?_eq hne hdigits, Option.filter_eq_some_iff] at h
      obtain ⟨hvalue, hle⟩ := h
      obtain rfl := Option.some.inj hvalue
      exact ⟨⟨hne, hdigits, by simpa using hle⟩, rfl⟩
    next => simp at h
  · rintro ⟨⟨hne, hdigits, hle⟩, rfl⟩
    rw [if_pos (hisDigits.mpr ⟨hne, hdigits⟩), unsigned?_of_isDigit hdigits,
      digitsValue?_eq hne hdigits, Option.filter_eq_some_iff]
    exact ⟨rfl, by simpa using hle⟩

/-- What is read of a row of digits is the value of a numeral. -/
theorem filter_digitsValue?_eq_some_iff :
    (digitsValue? s.toList).filter (· ≤ bound) = some n ↔
      IsNumeral bound s ∧ n = decimalValue s := by
  by_cases hdigits : isDigits s
  · have hall : ∀ c ∈ s.toList, c.isDigit := by
      simp only [isDigits, Bool.and_eq_true] at hdigits
      exact List.all_eq_true.mp hdigits.2
    rw [← unsigned?_of_isDigit hall, ← unsigned?_eq_some_iff, if_pos hdigits]
  · have hnone : digitsValue? s.toList = none := by
      rw [digitsValue?, if_neg]
      simpa [isDigits] using hdigits
    rw [← unsigned?_eq_some_iff, if_neg hdigits, hnone, Option.filter_none]

/-- What is read of a text is the value of the numeral in it. A plus sign may stand in front. -/
theorem unsigned?_eq_some_iff_numeral :
    unsigned? bound s = some n ↔
      ∃ numeral, (s = numeral ∨ s = "+" ++ numeral) ∧ IsNumeral bound numeral ∧
        n = decimalValue numeral := by
  rw [unsigned?]
  split
  next rest hsign =>
    obtain rfl : s = "+" ++ String.ofList rest := by
      rw [← String.toList_inj, hsign]
      simp
    have hrest : (digitsValue? rest).filter (· ≤ bound) = some n ↔
        IsNumeral bound (String.ofList rest) ∧ n = decimalValue (String.ofList rest) := by
      rw [← filter_digitsValue?_eq_some_iff, String.toList_ofList]
    rw [hrest]
    constructor
    · exact fun h => ⟨String.ofList rest, .inr rfl, h⟩
    · rintro ⟨numeral, rfl | hsame, hnumeral, hvalue⟩
      · -- A plus sign is no digit.
        exact absurd (hnumeral.isDigit '+' (by rw [hsign]; exact List.mem_cons_self)) (by decide)
      · rw [String.append_right_inj] at hsame
        exact hsame ▸ ⟨hnumeral, hvalue⟩
  next hnone =>
    rw [filter_digitsValue?_eq_some_iff]
    constructor
    · exact fun h => ⟨s, .inl rfl, h⟩
    · rintro ⟨numeral, rfl | rfl, h⟩
      · exact h
      · exact absurd (String.toList_append) (hnone numeral.toList)

/-- The characters of a number are its decimal digits. -/
theorem toList_toString (n : Nat) : (toString n).toList = Nat.toDigits 10 n := by
  rw [Nat.toString_eq_repr, Nat.repr_eq_ofList_toDigits, String.toList_ofList]

/-- A number is written in digits. -/
theorem isDigit_of_mem_toString {c : Char} {n : Nat} (hc : c ∈ (toString n).toList) : c.isDigit := by
  rw [toList_toString] at hc
  exact Nat.isDigit_of_mem_toDigits (by decide) (by decide) hc

/-- A number is written in at least one digit. -/
theorem toString_ne_empty (n : Nat) : toString n ≠ "" := by
  intro h
  have hdigits := toList_toString n
  rw [h] at hdigits
  exact Nat.toDigits_ne_nil hdigits.symm

/-- Different numbers are written differently. -/
theorem toString_injective : Function.Injective (toString : Nat → String) := by
  intro m n h
  have hdigits := congrArg String.toList h
  rw [toList_toString, toList_toString] at hdigits
  rw [← Nat.ofDigitChars_ten_toDigits (n := m), hdigits, Nat.ofDigitChars_ten_toDigits]

/-- A number is read back from its digits, up to the bound of the reader. -/
theorem unsigned?_toString (h : n ≤ bound) : unsigned? bound (toString n) = some n := by
  have hne : (toString n).toList ≠ [] := mt String.toList_eq_nil_iff.mp (toString_ne_empty n)
  have hall : (toString n).toList.all Char.isDigit :=
    List.all_eq_true.mpr fun _ => isDigit_of_mem_toString
  have hvalue : digitsValue? (toString n).toList = some n := by
    rw [digitsValue?, if_pos ⟨hne, hall⟩, toList_toString]
    exact congrArg some (Nat.ofDigitChars_ten_toDigits (n := n))
  rw [unsigned?_of_isDigit fun _ => isDigit_of_mem_toString, hvalue, Option.filter_some,
    if_pos (decide_eq_true h)]

end RelationGateway.Text
