import RelationGateway.Proofs.Text.Utf8
import RelationGateway.Proofs.Text.Basic
import RelationGateway.Url.Percent

/-!
# Percent escapes are read back

A text is written byte by byte, each byte as a row of ASCII characters that is read as that byte
whatever stands around it. A space may be written as `+` or as an escape, which is the only
difference between query strings and path segments.

* `Spells`: a row of characters is read as a byte;
* `decode_encode`: the text of a name or a value is read back;
* `encodeSegment`, `decodeSegment_encodeSegment`: the text of a path segment is read back;
* `Visible`, `visible_of_mem_encode`: what is written is visible and holds no separators.
-/

namespace RelationGateway.Url

/-! ## Characters -/

/-- The character may stand in what is written: it is visible, and reserved only if it is one of
the given signs. -/
structure Visible (signs : List Char) (c : Char) : Prop where
  /-- The character is visible. -/
  range : 0x21 ≤ c.toNat ∧ c.toNat ≤ 0x7E
  /-- A reserved character is one of the signs. -/
  sign : c ∈ reserved → c ∈ signs

instance (signs : List Char) (c : Char) : Decidable (Visible signs c) :=
  decidable_of_iff ((0x21 ≤ c.toNat ∧ c.toNat ≤ 0x7E) ∧ (c ∈ reserved → c ∈ signs))
    ⟨fun ⟨hrange, hsign⟩ => ⟨hrange, hsign⟩, fun h => ⟨h.range, h.sign⟩⟩

/-- More signs may be allowed. -/
theorem Visible.mono {signs signs' : List Char} {c : Char} (h : Visible signs c)
    (hsigns : signs ⊆ signs') : Visible signs' c :=
  ⟨h.range, fun hreserved => hsigns (h.sign hreserved)⟩

/-- A byte that stands for itself is that of a visible character that is not reserved. -/
theorem visible_of_isPlain {b : UInt8} (h : isPlain b) :
    (Char.ofNat b.toNat).toNat = b.toNat ∧ Visible [] (Char.ofNat b.toNat) := by
  simp only [isPlain, Bool.and_eq_true, decide_eq_true_eq, UInt8.le_iff_toNat_le] at h
  obtain ⟨⟨hlow, hhigh⟩, hreserved⟩ := h
  have hrange : 0x21 ≤ b.toNat ∧ b.toNat ≤ 0x7E := ⟨hlow, hhigh⟩
  have hcode : (Char.ofNat b.toNat).toNat = b.toNat := by
    rw [Utf8.toNat_charOfNat, if_pos (Or.inl (by omega))]
  refine ⟨hcode, by rwa [hcode], fun hmem => ?_⟩
  exact absurd hmem (by simpa using hreserved)

/-- A capital hexadecimal digit is visible and not reserved. -/
theorem visible_hexDigit {n : Nat} (hn : n < 16) : Visible [] (hexDigit n) := by
  have hall : ∀ n < 16, Visible [] (hexDigit n) := by decide
  exact hall n hn

/-- What is written for a byte is visible, and the reserved signs in it are those of escapes and
spaces. -/
theorem visible_of_mem_escape {b : UInt8} {c : Char} (hc : c ∈ escape b) :
    Visible ['%', '+'] c := by
  have hlt := b.toNat_lt
  unfold escape at hc
  split_ifs at hc with hspace hplain
  · obtain rfl : c = '+' := List.mem_singleton.mp hc
    decide
  · rw [List.mem_singleton.mp hc]
    exact (visible_of_isPlain hplain).2.mono (List.nil_subset _)
  · simp only [List.mem_cons, List.not_mem_nil, or_false] at hc
    rcases hc with rfl | rfl | rfl
    · decide
    · exact (visible_hexDigit (by omega)).mono (List.nil_subset _)
    · exact (visible_hexDigit (by omega)).mono (List.nil_subset _)

/-! ## Bytes -/

/-- The bytes of ASCII characters. -/
def asciiBytes (chars : List Char) : List UInt8 := chars.map fun c => UInt8.ofNat c.toNat

/-- The row of ASCII characters is read as the byte. -/
structure Spells (chars : List Char) (b : UInt8) : Prop where
  /-- The characters are ASCII characters. -/
  ascii : ∀ c ∈ chars, c.toNat < 0x80
  /-- Reading them adds the byte, whatever was read before. -/
  feed : ∀ read, (asciiBytes chars).foldl Unescaping.feed ⟨read, .none⟩ = ⟨b :: read, .none⟩

/-- ASCII characters are written as their own bytes. -/
theorem encode_ofList {chars : List Char} (hascii : ∀ c ∈ chars, c.toNat < 0x80) :
    Utf8.encode (String.ofList chars) = asciiBytes chars := by
  have hbyte : ∀ c ∈ chars, String.utf8EncodeChar c = [UInt8.ofNat c.toNat] :=
    fun c hc => Utf8.utf8EncodeChar_of_lt (hascii c hc)
  rw [Utf8.encode, String.toList_ofList, List.flatMap_congr hbyte, asciiBytes, List.map_eq_flatMap]

/-- An ASCII character other than the percent sign stands for itself. -/
theorem spells_singleton {c : Char} (hascii : c.toNat < 0x80) (hsign : c ≠ '%') :
    Spells [c] (UInt8.ofNat c.toNat) where
  ascii := List.forall_mem_singleton.mpr hascii
  feed read := by
    have hne : (UInt8.ofNat c.toNat == 0x25) = false := by
      rw [beq_eq_false_iff_ne]
      intro heq
      have hvalue := congrArg UInt8.toNat heq
      rw [UInt8.toNat_ofNat', Nat.mod_eq_of_lt (by omega)] at hvalue
      exact hsign (Char.toNat_inj.mp hvalue)
    simp [asciiBytes, Unescaping.feed, Unescaping.fresh, hne]

/-- A capital hexadecimal digit has its value. -/
theorem hexValue?_hexDigit {n : Nat} (hn : n < 16) :
    hexValue? (UInt8.ofNat (hexDigit n).toNat) = some (UInt8.ofNat n) := by
  have hall : ∀ n < 16, hexValue? (UInt8.ofNat (hexDigit n).toNat) = some (UInt8.ofNat n) := by
    decide
  exact hall n hn

/-- An escape is read as its byte. -/
theorem spells_escape_digits (b : UInt8) :
    Spells ['%', hexDigit (b.toNat / 16), hexDigit (b.toNat % 16)] b where
  ascii := by
    have hdigit : ∀ n < 16, (hexDigit n).toNat < 0x80 := by decide
    have hlt := b.toNat_lt
    intro c hc
    simp only [List.mem_cons, List.not_mem_nil, or_false] at hc
    rcases hc with rfl | rfl | rfl
    · decide
    · exact hdigit _ (by omega)
    · exact hdigit _ (by omega)
  feed read := by
    have hlt := b.toNat_lt
    have hhigh := hexValue?_hexDigit (n := b.toNat / 16) (by omega)
    have hlow := hexValue?_hexDigit (n := b.toNat % 16) (by omega)
    have hvalue : UInt8.ofNat (b.toNat / 16) * 16 + UInt8.ofNat (b.toNat % 16) = b := by
      apply UInt8.toNat_inj.mp
      simp only [UInt8.toNat_add, UInt8.toNat_mul, UInt8.toNat_ofNat', UInt8.toNat_ofNat]
      omega
    have hsign : Unescaping.feed ⟨read, .none⟩ (UInt8.ofNat '%'.toNat) = ⟨read, .sign⟩ := rfl
    simp only [asciiBytes, List.map_cons, List.map_nil, List.foldl_cons, List.foldl_nil, hsign]
    simp only [Unescaping.feed, hhigh, hlow, hvalue]

/-! ## Texts -/

/-- The characters written for a text are those of each of its bytes. -/
theorem toList_encode (s : String) : (encode s).toList = (Utf8.encode s).flatMap escape :=
  String.toList_ofList

/-- A text is read back if each of its bytes is written as a row of characters that spells it. -/
theorem decodeSegment_flatMap {write : UInt8 → List Char} (hwrite : ∀ b, Spells (write b) b)
    (s : String) :
    decodeSegment (String.ofList ((Utf8.encode s).flatMap write)) = s := by
  -- The bytes read before are kept, so the induction is over any of them.
  have hfold (bytes read : List UInt8) :
      (asciiBytes (bytes.flatMap write)).foldl Unescaping.feed ⟨read, .none⟩ =
        ⟨bytes.reverse ++ read, .none⟩ := by
    induction bytes generalizing read with
    | nil => rfl
    | cons b rest ih =>
      have hsplit : asciiBytes ((b :: rest).flatMap write) =
          asciiBytes (write b) ++ asciiBytes (rest.flatMap write) := by
        rw [List.flatMap_cons, asciiBytes, List.map_append]
        rfl
      rw [hsplit, List.foldl_append, (hwrite b).feed, ih, List.reverse_cons, List.append_assoc]
      rfl
  have hascii : ∀ c ∈ (Utf8.encode s).flatMap write, c.toNat < 0x80 := by
    intro c hc
    obtain ⟨b, -, hb⟩ := List.mem_flatMap.mp hc
    exact (hwrite b).ascii c hb
  have hunescape : unescape (asciiBytes ((Utf8.encode s).flatMap write)) = Utf8.encode s := by
    rw [unescape, hfold, List.append_nil]
    exact List.reverse_reverse _
  rw [decodeSegment, encode_ofList hascii, hunescape, Utf8.decode_encode]

/-- What is written for a byte spells it once the plus sign that stands for a space is written in
a way that spells a space. -/
theorem spells_flatMap_escape {write : Char → List Char} (hplus : Spells (write '+') 0x20)
    (hother : ∀ c, c ≠ '+' → write c = [c]) (b : UInt8) : Spells ((escape b).flatMap write) b := by
  have hlt := b.toNat_lt
  unfold escape
  split_ifs with hspace hplain
  · rw [List.flatMap_singleton, beq_iff_eq.mp hspace]
    exact hplus
  · -- A byte that stands for itself is that of neither sign, because both are reserved.
    obtain ⟨hcode, hvisible⟩ := visible_of_isPlain hplain
    have hsigns : ¬ Visible [] '+' ∧ ¬ Visible [] '%' := by decide
    have hplus : Char.ofNat b.toNat ≠ '+' := fun h => hsigns.1 (h ▸ hvisible)
    have hsign : Char.ofNat b.toNat ≠ '%' := fun h => hsigns.2 (h ▸ hvisible)
    have hspells := spells_singleton (Nat.lt_of_le_of_lt hvisible.range.2 (by decide)) hsign
    rw [hcode, UInt8.ofNat_toNat] at hspells
    rw [List.flatMap_singleton, hother _ hplus]
    exact hspells
  · have hdigit : ∀ n < 16, hexDigit n ≠ '+' := by decide
    have hwritten : (['%', hexDigit (b.toNat / 16), hexDigit (b.toNat % 16)]).flatMap write =
        ['%', hexDigit (b.toNat / 16), hexDigit (b.toNat % 16)] := by
      simp only [List.flatMap_cons, List.flatMap_nil, List.append_nil]
      rw [hother _ (by decide), hother _ (hdigit _ (by omega)), hother _ (hdigit _ (by omega))]
      rfl
    rw [hwritten]
    exact spells_escape_digits b

/-- The text of a name or a value is read back. -/
theorem decode_encode (s : String) : decode (encode s) = s := by
  let write (c : Char) : List Char := [if c == '+' then ' ' else c]
  have hplus : Spells (write '+') 0x20 := spells_singleton (c := ' ') (by decide) (by decide)
  have hother (c : Char) (hc : c ≠ '+') : write c = [c] := by
    simp only [write, beq_eq_false_iff_ne.mpr hc, Bool.false_eq_true, if_false]
  have hwritten : Text.substitute '+' ' ' (encode s) =
      String.ofList ((Utf8.encode s).flatMap fun b => (escape b).flatMap write) := by
    apply String.toList_inj.mp
    rw [Text.substitute, String.toList_map, toList_encode, String.toList_ofList,
      ← List.flatMap_assoc, List.map_eq_flatMap]
  rw [decode, hwritten, decodeSegment_flatMap (spells_flatMap_escape hplus hother)]

/-- The text written for a path segment, where a space cannot be written as `+`. -/
def encodeSegment (s : String) : String :=
  String.ofList ((encode s).toList.flatMap fun c => if c = '+' then "%20".toList else [c])

/-- The text of a path segment is read back. -/
theorem decodeSegment_encodeSegment (s : String) : decodeSegment (encodeSegment s) = s := by
  let write (c : Char) : List Char := if c = '+' then "%20".toList else [c]
  have hplus : Spells (write '+') 0x20 := spells_escape_digits 0x20
  have hother (c : Char) (hc : c ≠ '+') : write c = [c] := if_neg hc
  have hwritten : encodeSegment s =
      String.ofList ((Utf8.encode s).flatMap fun b => (escape b).flatMap write) := by
    rw [encodeSegment, toList_encode, List.flatMap_assoc]
  rw [hwritten, decodeSegment_flatMap (spells_flatMap_escape hplus hother)]

example : encodeSegment "a b+/é" = "a%20b%2B%2F%C3%A9" := by decide +kernel

/-! ## Written characters -/

/-- What is written for a query string or a form is visible, and the reserved signs in it are those
of escapes and spaces. -/
theorem visible_of_mem_encode {s : String} {c : Char} (hc : c ∈ (encode s).toList) :
    Visible ['%', '+'] c := by
  rw [toList_encode] at hc
  obtain ⟨b, -, hb⟩ := List.mem_flatMap.mp hc
  exact visible_of_mem_escape hb

/-- What is written for a path segment is visible, and the reserved signs in it are those of
escapes. -/
theorem visible_of_mem_encodeSegment {s : String} {c : Char}
    (hc : c ∈ (encodeSegment s).toList) : Visible ['%'] c := by
  rw [encodeSegment, String.toList_ofList] at hc
  obtain ⟨d, hd, hcd⟩ := List.mem_flatMap.mp hc
  split_ifs at hcd with hplus
  · have hall : "%20".toList.all (Visible ['%'] ·) := by decide
    exact of_decide_eq_true (List.all_eq_true.mp hall c hcd)
  · obtain rfl : c = d := List.mem_singleton.mp hcd
    have hvisible := visible_of_mem_encode hd
    refine ⟨hvisible.range, fun hreserved => ?_⟩
    exact List.mem_singleton.mpr ((List.mem_pair.mp (hvisible.sign hreserved)).resolve_right hplus)

/-- A visible character is not blank. -/
theorem Visible.not_isBlank {signs : List Char} {c : Char} (h : Visible signs c) :
    ¬ Text.isBlank c := by
  have hall : ∀ c : Char, c.toNat < 0x7F → 0x21 ≤ c.toNat → ¬ Text.isBlank c :=
    Text.forall_toNat_lt (by decide +kernel)
  exact hall c (Nat.lt_succ_of_le h.range.2) h.range.1

/-- A text of visible characters has no blanks around it. -/
theorem unpadded_of_visible {signs : List Char} {s : String}
    (h : ∀ c ∈ s.toList, Visible signs c) : Text.Unpadded s where
  head c hc := (h c (List.mem_of_mem_head? hc)).not_isBlank
  last c hc := (h c (List.mem_of_mem_getLast? hc)).not_isBlank

end RelationGateway.Url
