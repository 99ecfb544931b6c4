import RelationGateway.Proofs.Accumulation
import RelationGateway.Proofs.Delimited
import RelationGateway.Proofs.Url.Percent

/-!
# What a written text is made of

A text for a query string or a form is first written with escapes alone, and then the escapes of
spaces are replaced by plus signs. Nothing else is met by the replacement, so each percent sign that
is left begins an escape and each plus sign stands for one space.

* `Text.replaced`: a text with all occurrences of another replaced;
* `replaced_encodeSegment`: plus signs are put for the escapes of spaces and for nothing else;
* `encode_eq_append_plus_iff`: a plus sign stands for a space, and what is around it for what is
  around the space;
* `encode_reversible`: what is written for a text, and that it is read back.
-/

namespace RelationGateway.Delimited

variable {α : Type} [BEq α] {old new before list : List α}

/-- What is passed over by the cut is kept in front of the replacements. -/
theorem intercalate_segments_append
    (hcut : cut? old (before ++ list) = (cut? old list).map fun cut => (before ++ cut.1, cut.2)) :
    new.intercalate (segments old (before ++ list)) =
      before ++ new.intercalate (segments old list) := by
  rw [segments_eq, segments_eq old list, hcut]
  cases cut? old list with
  | none => simp
  | some cut =>
    obtain ⟨piece, rest⟩ := cut
    have hrest := segments_ne_nil old rest
    simp only [Option.map_some, List.intercalate_cons_of_ne_nil hrest, List.append_assoc]

/-- What is replaced at the beginning leaves the rest to be replaced. -/
theorem intercalate_segments_delimiter [LawfulBEq α] (hold : old ≠ []) (list : List α) :
    new.intercalate (segments old (old ++ list)) = new ++ new.intercalate (segments old list) := by
  rw [segments_of_cut? (cut?_delimiter_append hold list),
    List.intercalate_cons_of_ne_nil (segments_ne_nil old list), List.nil_append]

end RelationGateway.Delimited

namespace RelationGateway.Text

/-- The text with the occurrences of `old`, found from the left and without overlaps, replaced by
`new`. -/
def replaced (old new s : String) : String := String.intercalate new (segments old s)

example : replaced "aa" "b" "aaa%aa" = "ba%b" := by decide

/-- Replacing in a text is replacing in the list of its characters. -/
theorem toList_replaced (old new s : String) :
    (replaced old new s).toList =
      new.toList.intercalate (Delimited.segments old.toList s.toList) := by
  rw [replaced, String.toList_intercalate, segments, List.map_map]
  simp [Function.comp_def]

end RelationGateway.Text

namespace RelationGateway.Url

/-! ## Escapes -/

/-- The digits of escapes. -/
def hexDigits : List Char := "0123456789ABCDEF".toList

theorem hexDigit_mem_hexDigits {n : Nat} (hn : n < 16) : hexDigit n ∈ hexDigits := by
  have hall : ∀ n < 16, hexDigit n ∈ hexDigits := by decide
  exact hall n hn

/-- No digit of an escape is a percent sign or a plus sign. -/
theorem sign_not_mem_digits (b : UInt8) {sign : Char} (hsign : sign ∉ hexDigits) :
    sign ∉ [hexDigit (b.toNat / 16), hexDigit (b.toNat % 16)] := by
  have hlt := b.toNat_lt
  intro hmem
  rcases List.mem_pair.mp hmem with rfl | rfl
  · exact hsign (hexDigit_mem_hexDigits (by omega))
  · exact hsign (hexDigit_mem_hexDigits (by omega))

/-- A byte that stands for itself is that of no sign. -/
theorem ofNat_ne_of_isPlain {b : UInt8} (h : isPlain b) {sign : Char} (hsign : ¬ Visible [] sign) :
    Char.ofNat b.toNat ≠ sign := by
  rintro rfl
  exact hsign (visible_of_isPlain h).2

/-- A percent sign in what is written for a byte begins an escape. -/
theorem eq_of_escape_eq_append_percent {b : UInt8} {left right : List Char}
    (h : escape b = left ++ '%' :: right) :
    left = [] ∧ right = [hexDigit (b.toNat / 16), hexDigit (b.toNat % 16)] := by
  have hmem : '%' ∈ escape b := by
    rw [h]
    exact List.mem_append_right left List.mem_cons_self
  unfold escape at h hmem
  split_ifs at h hmem with hspace hplain
  · exact absurd (List.mem_singleton.mp hmem) (by decide)
  · exact absurd (List.mem_singleton.mp hmem).symm (ofNat_ne_of_isPlain hplain (by decide))
  · cases left with
    | nil => exact ⟨rfl, (List.cons.inj h).2.symm⟩
    | cons c left =>
      -- The percent sign would be one of the digits.
      have hpercent : '%' ∉ hexDigits := by decide
      refine absurd ?_ (sign_not_mem_digits b hpercent)
      rw [(List.cons.inj h).2]
      exact List.mem_append_right left List.mem_cons_self

/-- Only the space is written with a plus sign. -/
theorem eq_space_of_plus_mem_escape {b : UInt8} (h : '+' ∈ escape b) : b = 0x20 := by
  unfold escape at h
  split_ifs at h with hspace hplain
  · exact beq_iff_eq.mp hspace
  · exact absurd (List.mem_singleton.mp h).symm (ofNat_ne_of_isPlain hplain (by decide))
  · rcases List.mem_cons.mp h with hpercent | hdigit
    · exact absurd hpercent (by decide)
    · exact absurd hdigit (sign_not_mem_digits b (by decide))

/-- In a written text two digits stand behind each percent sign. -/
theorem exists_digits_of_encode_eq {s : String} {front back : List Char}
    (h : (encode s).toList = front ++ '%' :: back) :
    ∃ high low rest, back = high :: low :: rest ∧ high ∈ hexDigits ∧ low ∈ hexDigits := by
  rw [toList_encode] at h
  obtain ⟨_, b, after, left, right, -, hescape, -, hback⟩ :=
    Accumulation.exists_of_flatMap_eq_append_cons h
  obtain ⟨-, hright⟩ := eq_of_escape_eq_append_percent hescape
  have hlt := b.toNat_lt
  exact ⟨_, _, after.flatMap escape, by rw [hback, hright]; rfl,
    hexDigit_mem_hexDigits (by omega), hexDigit_mem_hexDigits (by omega)⟩

/-! ## Escapes alone -/

/-- What is written for a byte without plus signs. -/
def escapeAlone (b : UInt8) : List Char :=
  if isPlain b then [Char.ofNat b.toNat]
  else ['%', hexDigit (b.toNat / 16), hexDigit (b.toNat % 16)]

/-- Written with escapes alone, each byte stands for itself or is written as its escape. -/
theorem toList_encodeSegment (s : String) :
    (encodeSegment s).toList = (Utf8.encode s).flatMap escapeAlone := by
  rw [encodeSegment, String.toList_ofList, toList_encode, List.flatMap_assoc]
  refine List.flatMap_congr fun b _ => ?_
  have hkept {chars : List Char} (hchars : '+' ∉ chars) :
      (chars.flatMap fun c => if c = '+' then "%20".toList else [c]) = chars := by
    have hone : ∀ c ∈ chars, (if c = '+' then "%20".toList else [c]) = [c] :=
      fun c hc => if_neg (ne_of_mem_of_not_mem hc hchars)
    rw [List.flatMap_congr hone, List.flatMap_singleton']
  by_cases hspace : b = 0x20
  · rw [hspace]
    decide
  · rw [hkept (mt eq_space_of_plus_mem_escape hspace), escape, if_neg (by simpa using hspace)]
    rfl

/-- The escape of a space is that of no other byte. -/
theorem eq_space_of_digits {b : UInt8}
    (h : [hexDigit (b.toNat / 16), hexDigit (b.toNat % 16)] = ['2', '0']) : b = 0x20 := by
  have hdigits : ∀ n < 16, (hexDigit n = '2' → n = 2) ∧ (hexDigit n = '0' → n = 0) := by decide
  have hlt := b.toNat_lt
  obtain ⟨hhigh, htail⟩ := List.cons.inj h
  have hhigh := (hdigits (b.toNat / 16) (by omega)).1 hhigh
  have hlow := (hdigits (b.toNat % 16) (by omega)).2 (List.cons.inj htail).1
  have hvalue : b.toNat = 0x20 := by omega
  exact UInt8.toNat_inj.mp hvalue

/-- The escape of another byte than the space is passed over: the escape of a space is not it, and
begins at none of its digits. -/
theorem cut?_escapeAlone_append {b : UInt8} (hspace : b ≠ 0x20) (list : List Char) :
    Delimited.cut? "%20".toList (escapeAlone b ++ list) =
      (Delimited.cut? "%20".toList list).map fun cut => (escapeAlone b ++ cut.1, cut.2) := by
  have hescape : "%20".toList = ['%', '2', '0'] := rfl
  rw [hescape]
  unfold escapeAlone
  split_ifs with hplain
  · refine Delimited.cut?_append_of_not_mem ?_ _ _
    exact fun hmem => ofNat_ne_of_isPlain hplain (by decide) (List.mem_singleton.mp hmem).symm
  · have hpercent : '%' ∉ hexDigits := by decide
    have hdigits := sign_not_mem_digits b hpercent
    have hother : ¬ ['%', '2', '0'].isPrefixOf
        ('%' :: ([hexDigit (b.toNat / 16), hexDigit (b.toNat % 16)] ++ list)) := by
      intro hprefix
      simp only [List.isPrefixOf_cons_cons, List.cons_append, List.nil_append,
        List.isPrefixOf_nil_left, Bool.and_eq_true, beq_iff_eq, and_true] at hprefix
      exact hspace (eq_space_of_digits (by rw [← hprefix.2.1, ← hprefix.2.2]))
    rw [List.cons_append, Delimited.cut?_cons (List.cons_ne_nil _ _), if_neg hother,
      Delimited.cut?_append_of_not_mem hdigits, Option.map_map]
    rfl

/-- Plus signs are put for the escapes of spaces, and the replacement meets nothing else: not the
digits behind the escape of a percent sign, nor parts of two escapes. -/
theorem replaced_encodeSegment (s : String) :
    Text.replaced "%20" "+" (encodeSegment s) = encode s := by
  apply String.toList_inj.mp
  rw [Text.toList_replaced, toList_encodeSegment, toList_encode]
  induction Utf8.encode s with
  | nil => rfl
  | cons b rest ih =>
    rw [List.flatMap_cons, List.flatMap_cons, ← ih]
    by_cases hspace : b = 0x20
    · subst hspace
      exact Delimited.intercalate_segments_delimiter (List.cons_ne_nil _ _) _
    · have hwritten : escape b = escapeAlone b := if_neg (by simpa using hspace)
      rw [hwritten]
      exact Delimited.intercalate_segments_append (cut?_escapeAlone_append hspace _)

/-! ## Plus signs -/

/-- What is written for a character. -/
def writtenChar (c : Char) : List Char := (String.utf8EncodeChar c).flatMap escape

/-- A text is written character by character. -/
theorem toList_encode_eq (s : String) : (encode s).toList = s.toList.flatMap writtenChar := by
  rw [toList_encode, Utf8.encode, List.flatMap_assoc]
  rfl

/-- Only the space is written with a plus sign, and it is written with nothing else. -/
theorem eq_of_writtenChar_eq_append_plus {c : Char} {left right : List Char}
    (h : writtenChar c = left ++ '+' :: right) : c = ' ' ∧ left = [] ∧ right = [] := by
  have hmem : '+' ∈ writtenChar c := by
    rw [h]
    exact List.mem_append_right left List.mem_cons_self
  obtain ⟨b, hb, hplus⟩ := List.mem_flatMap.mp hmem
  have hspace := eq_space_of_plus_mem_escape hplus
  obtain rfl : ' ' = c := by
    rw [← Utf8.ofNat_of_mem_utf8EncodeChar hb (by rw [hspace]; decide), hspace]
    rfl
  have hwritten : writtenChar ' ' = ['+'] := by decide
  rw [hwritten] at h
  cases left with
  | nil => exact ⟨rfl, rfl, (List.cons.inj h).2.symm⟩
  | cons d left => simp at h

/-- A plus sign in a written text stands for a space, what is in front of it for what is in front of
the space, and what is behind it for what is behind the space. -/
theorem encode_eq_append_plus_iff {s front back : String} :
    encode s = front ++ "+" ++ back ↔
      ∃ before after, s = before ++ " " ++ after ∧ front = encode before ∧ back = encode after := by
  simp only [← String.toList_inj, String.toList_append, toList_encode_eq]
  constructor
  · intro h
    rw [List.append_assoc] at h
    obtain ⟨before, c, after, left, right, hs, hc, hfront, hback⟩ :=
      Accumulation.exists_of_flatMap_eq_append_cons h
    obtain ⟨rfl, rfl, rfl⟩ := eq_of_writtenChar_eq_append_plus hc
    refine ⟨String.ofList before, String.ofList after, ?_, ?_, ?_⟩
    · simpa using hs
    · simpa using hfront
    · simpa using hback
  · rintro ⟨before, after, hs, hfront, hback⟩
    have hspace : " ".toList.flatMap writtenChar = "+".toList := by decide
    rw [hs, hfront, hback, List.flatMap_append, List.flatMap_append, hspace]

/-! ## Written texts -/

/-- Every text is read back from what is written for it, which is made of visible ASCII characters:
percent signs, each with two digits behind it, plus signs, each for one space of the text, and
characters that are not reserved. The escapes are written first, and then plus signs are put for
those of spaces. -/
theorem encode_reversible (s : String) :
    decode (encode s) = s ∧
      (∀ c ∈ (encode s).toList,
        0x20 < c.toNat ∧ c.toNat < 0x7F ∧ c ∉ "!*'();:@&=$,/?#[]".toList) ∧
      (∀ front back, (encode s).toList = front ++ '%' :: back →
        ∃ high low rest, back = high :: low :: rest ∧ high ∈ hexDigits ∧ low ∈ hexDigits) ∧
      (∀ front back, encode s = front ++ "+" ++ back ↔
        ∃ before after, s = before ++ " " ++ after ∧ front = encode before ∧
          back = encode after) ∧
      encode s = Text.replaced "%20" "+" (encodeSegment s) := by
  refine ⟨decode_encode s, fun c hc => ?_, fun _ _ => exists_digits_of_encode_eq,
    fun _ _ => encode_eq_append_plus_iff, (replaced_encodeSegment s).symm⟩
  have hvisible := visible_of_mem_encode hc
  refine ⟨hvisible.range.1, Nat.lt_succ_of_le hvisible.range.2, fun hmem => ?_⟩
  -- The characters of the list are the reserved ones but for the two signs.
  have hlist : "!*'();:@&=$,/?#[]".toList = reserved.filter fun c => c != '%' && c != '+' := rfl
  rw [hlist] at hmem
  obtain ⟨hreserved, hsign⟩ := List.mem_filter.mp hmem
  exact absurd (hvisible.sign hreserved) (by simpa using hsign)

/-- Texts that look like escapes and plus signs are read back as they are. -/
theorem encode_reversible_signs :
    encode "%20 +%2B%é" = "%2520+%2B%252B%25%C3%A9" ∧ decode (encode "%20 +%2B%é") = "%20 +%2B%é" ∧
      ∃ before after, "%20 +%2B%é" = before ++ " " ++ after ∧ "%2520" = encode before ∧
        "%2B%252B%25%C3%A9" = encode after := by
  obtain ⟨hread, -, -, hplus, -⟩ := encode_reversible "%20 +%2B%é"
  have hwritten : encode "%20 +%2B%é" = "%2520+%2B%252B%25%C3%A9" := by decide +kernel
  exact ⟨hwritten, hread, (hplus "%2520" "%2B%252B%25%C3%A9").mp (hwritten.trans (by decide))⟩

end RelationGateway.Url
