import Mathlib.Data.List.Basic
import RelationGateway.Text.Utf8

/-!
# Reading what was written as UTF-8

* `decode_encode`: a text is read back from its bytes;
* `encode_append`, `encode_intercalate`: the bytes of joined texts;
* `mem_of_mem_encode`: a byte below 128 among the bytes of a text is a character of the text.
-/

namespace RelationGateway.Utf8

/-! ## Single bytes -/

/-- A number is the code of its character, if it has one. -/
theorem toNat_charOfNat (n : Nat) : (Char.ofNat n).toNat = if n.isValidChar then n else 0 := by
  by_cases h : n.isValidChar
  · rw [Char.ofNat, dif_pos h, if_pos h]
    rfl
  · rw [Char.ofNat, dif_neg h, if_neg h]
    rfl

/-- The first byte of a character, with its value as a number. -/
theorem begin_ofNat (read : List Char) {n : Nat} (hn : n < 256) :
    Progress.begin read (UInt8.ofNat n) =
      if n < 0x80 then ⟨Char.ofNat n :: read, none⟩
      else if 0xC2 ≤ n ∧ n ≤ 0xDF then ⟨read, some ⟨1, 0x80, 0xBF, n % 0x20⟩⟩
      else if n = 0xE0 then ⟨read, some ⟨2, 0xA0, 0xBF, 0⟩⟩
      else if n = 0xED then ⟨read, some ⟨2, 0x80, 0x9F, 0xD⟩⟩
      else if 0xE1 ≤ n ∧ n ≤ 0xEF then ⟨read, some ⟨2, 0x80, 0xBF, n % 0x10⟩⟩
      else if n = 0xF0 then ⟨read, some ⟨3, 0x90, 0xBF, 0⟩⟩
      else if 0xF1 ≤ n ∧ n ≤ 0xF3 then ⟨read, some ⟨3, 0x80, 0xBF, n % 8⟩⟩
      else if n = 0xF4 then ⟨read, some ⟨3, 0x80, 0x8F, 4⟩⟩
      else ⟨replacement :: read, none⟩ := by
  have hvalue : (UInt8.ofNat n).toNat = n := by
    rw [UInt8.toNat_ofNat']
    exact Nat.mod_eq_of_lt hn
  simp only [Progress.begin, UInt8.lt_iff_toNat_lt, UInt8.le_iff_toNat_le, ← UInt8.toNat_inj,
    beq_iff_eq, Bool.and_eq_true, decide_eq_true_eq, hvalue]
  rfl

variable {read : List Char} {c : Partial} {d : Nat}

/-- A byte in the range that may come next adds its last six bits to an open character. -/
theorem feed_continuation (hd : d < 0x40) (hlow : c.low.toNat ≤ d + 0x80)
    (hhigh : d + 0x80 ≤ c.high.toNat) :
    Progress.feed ⟨read, some c⟩ (UInt8.ofNat (d + 0x80)) =
      if c.owed ≤ 1 then ⟨Char.ofNat (c.value * 0x40 + d) :: read, none⟩
      else ⟨read, some ⟨c.owed - 1, 0x80, 0xBF, c.value * 0x40 + d⟩⟩ := by
  have hvalue : (UInt8.ofNat (d + 0x80)).toNat = d + 0x80 := by
    rw [UInt8.toNat_ofNat']
    exact Nat.mod_eq_of_lt (by omega)
  have hbits : (d + 0x80) % 0x40 = d := by omega
  have hrange : (c.low ≤ UInt8.ofNat (d + 0x80) && UInt8.ofNat (d + 0x80) ≤ c.high) = true := by
    simp only [Bool.and_eq_true, decide_eq_true_eq, UInt8.le_iff_toNat_le, hvalue]
    exact ⟨hlow, hhigh⟩
  simp only [Progress.feed, hrange, if_true, hvalue, hbits]

/-- The first of two bytes is read. -/
theorem begin_two (read : List Char) {v : Nat} (hlow : 0x80 ≤ v) (hhigh : v ≤ 0x7FF) :
    Progress.begin read (UInt8.ofNat (v / 64 % 0x20 + 0xC0)) =
      ⟨read, some ⟨1, 0x80, 0xBF, v / 64⟩⟩ := by
  have hvalue : (v / 64 % 0x20 + 0xC0) % 0x20 = v / 64 := by omega
  rw [begin_ofNat read (by omega), if_neg (by omega), if_pos (by omega), hvalue]

/-- The first of three bytes is read, and the second is in the range that may come next: no
character below 0x800 has three bytes, and surrogates are no characters. -/
theorem begin_three (read : List Char) {v : Nat} (hlow : 0x800 ≤ v) (hhigh : v ≤ 0xFFFF)
    (hvalid : v < 0xD800 ∨ 0xDFFF < v) :
    ∃ low high : UInt8, low.toNat ≤ v / 64 % 0x40 + 0x80 ∧ v / 64 % 0x40 + 0x80 ≤ high.toNat ∧
      Progress.begin read (UInt8.ofNat (v / 4096 % 0x10 + 0xE0)) =
        ⟨read, some ⟨2, low, high, v / 4096⟩⟩ := by
  rw [begin_ofNat read (by omega), if_neg (by omega), if_neg (by omega)]
  -- The lowest first byte and that of the surrogates restrict the second byte.
  by_cases hfirst : v / 4096 = 0
  · refine ⟨0xA0, 0xBF, ?_, ?_, ?_⟩
    · show 0xA0 ≤ _
      omega
    · show _ ≤ 0xBF
      omega
    · rw [if_pos (by omega), hfirst]
  · rw [if_neg (by omega)]
    by_cases hsurrogate : v / 4096 = 0xD
    · refine ⟨0x80, 0x9F, ?_, ?_, ?_⟩
      · show 0x80 ≤ _
        omega
      · show _ ≤ 0x9F
        omega
      · rw [if_pos (by omega), hsurrogate]
    · have hvalue : (v / 4096 % 0x10 + 0xE0) % 0x10 = v / 4096 := by omega
      refine ⟨0x80, 0xBF, ?_, ?_, ?_⟩
      · show 0x80 ≤ _
        omega
      · show _ ≤ 0xBF
        omega
      · rw [if_neg (by omega), if_pos (by omega), hvalue]

/-- The first of four bytes is read, and the second is in the range that may come next: no
character below 0x10000 has four bytes, and none is beyond 0x10FFFF. -/
theorem begin_four (read : List Char) {v : Nat} (hlow : 0x10000 ≤ v) (hhigh : v < 0x110000) :
    ∃ low high : UInt8, low.toNat ≤ v / 4096 % 0x40 + 0x80 ∧
      v / 4096 % 0x40 + 0x80 ≤ high.toNat ∧
      Progress.begin read (UInt8.ofNat (v / 262144 % 0x08 + 0xF0)) =
        ⟨read, some ⟨3, low, high, v / 262144⟩⟩ := by
  rw [begin_ofNat read (by omega), if_neg (by omega), if_neg (by omega), if_neg (by omega),
    if_neg (by omega), if_neg (by omega)]
  -- The lowest first byte and the highest restrict the second byte.
  by_cases hfirst : v / 262144 = 0
  · refine ⟨0x90, 0xBF, ?_, ?_, ?_⟩
    · show 0x90 ≤ _
      omega
    · show _ ≤ 0xBF
      omega
    · rw [if_pos (by omega), hfirst]
  · rw [if_neg (by omega)]
    by_cases hlast : v / 262144 = 4
    · refine ⟨0x80, 0x8F, ?_, ?_, ?_⟩
      · show 0x80 ≤ _
        omega
      · show _ ≤ 0x8F
        omega
      · rw [if_neg (by omega), if_pos (by omega), hlast]
    · have hvalue : (v / 262144 % 0x08 + 0xF0) % 8 = v / 262144 := by omega
      refine ⟨0x80, 0xBF, ?_, ?_, ?_⟩
      · show 0x80 ≤ _
        omega
      · show _ ≤ 0xBF
        omega
      · rw [if_pos (by omega), hvalue]

/-- A later byte that may be any is in its range. -/
theorem continuation_range (d : Nat) :
    (0x80 : UInt8).toNat ≤ d % 0x40 + 0x80 ∧ d % 0x40 + 0x80 ≤ (0xBF : UInt8).toNat := by
  constructor
  · show 0x80 ≤ _
    omega
  · show _ ≤ 0xBF
    omega

/-- The bytes of a character are read as the character. -/
theorem foldl_feed_utf8EncodeChar (read : List Char) (c : Char) :
    (String.utf8EncodeChar c).foldl Progress.feed ⟨read, none⟩ = ⟨c :: read, none⟩ := by
  have hvalid : c.val.toNat < 0xD800 ∨ 0xDFFF < c.val.toNat ∧ c.val.toNat < 0x110000 := c.valid
  have hchar {n : Nat} (hn : n = c.val.toNat) : Char.ofNat n = c := by
    rw [hn]
    exact Char.ofNat_toNat c
  have hbegin (n : Nat) : Progress.feed ⟨read, none⟩ (UInt8.ofNat n) =
      Progress.begin read (UInt8.ofNat n) := rfl
  have hmod (n : Nat) : n % 0x40 < 0x40 := Nat.mod_lt n (by decide)
  obtain ⟨hlow, hhigh⟩ := continuation_range c.val.toNat
  obtain ⟨hlow', hhigh'⟩ := continuation_range (c.val.toNat / 64)
  unfold String.utf8EncodeChar
  dsimp only
  -- One case for each number of bytes: the first opens the character, the last closes it.
  split_ifs with h₁ h₂ h₃
  · rw [List.foldl_cons, hbegin, begin_ofNat read (by omega), if_pos (by omega), hchar rfl,
      List.foldl_nil]
  · rw [List.foldl_cons, hbegin, begin_two read (by omega) h₂, List.foldl_cons,
      feed_continuation (hmod _) hlow hhigh, if_pos (Nat.le_refl 1), hchar (by dsimp only; omega),
      List.foldl_nil]
  · obtain ⟨low, high, hl, hh, hfirst⟩ := begin_three read (v := c.val.toNat) (by omega) h₃
      (by omega)
    rw [List.foldl_cons, hbegin, hfirst, List.foldl_cons, feed_continuation (hmod _) hl hh,
      if_neg (by simp), List.foldl_cons, feed_continuation (hmod _) hlow hhigh,
      if_pos (by simp), hchar (by dsimp only; omega), List.foldl_nil]
  · obtain ⟨low, high, hl, hh, hfirst⟩ := begin_four read (v := c.val.toNat) (by omega) (by omega)
    rw [List.foldl_cons, hbegin, hfirst, List.foldl_cons, feed_continuation (hmod _) hl hh,
      if_neg (by simp), List.foldl_cons, feed_continuation (hmod _) hlow' hhigh', if_neg (by simp),
      List.foldl_cons, feed_continuation (hmod _) hlow hhigh, if_pos (by simp),
      hchar (by dsimp only; omega), List.foldl_nil]

/-! ## Texts -/

/-- A text is read back from its bytes. -/
theorem decode_encode (s : String) : decode (encode s) = s := by
  -- The characters read before are kept, so the induction is over any of them.
  have hfold (chars read : List Char) :
      (chars.flatMap String.utf8EncodeChar).foldl Progress.feed ⟨read, none⟩ =
        ⟨chars.reverse ++ read, none⟩ := by
    induction chars generalizing read with
    | nil => rfl
    | cons c rest ih =>
      rw [List.flatMap_cons, List.foldl_append, foldl_feed_utf8EncodeChar, ih, List.reverse_cons,
        List.append_assoc]
      rfl
  have hread := hfold s.toList []
  rw [decode, encode, hread]
  simp [Progress.finish]

/-- A text has as many bytes as it is long in UTF-8. -/
theorem length_encode (s : String) : (encode s).length = s.utf8ByteSize := by
  rw [← String.size_toByteArray, ← String.utf8Encode_toList]
  simp [encode, List.utf8Encode]

/-- The bytes of joined texts are those of one after the other. -/
theorem encode_append (s t : String) : encode (s ++ t) = encode s ++ encode t := by
  rw [encode, String.toList_append, List.flatMap_append]
  rfl

/-- The bytes of texts with a text between are the bytes of the texts with its bytes between. -/
theorem encode_intercalate (separator : String) (texts : List String) :
    encode (String.intercalate separator texts) =
      (encode separator).intercalate (texts.map encode) := by
  induction texts with
  | nil => rfl
  | cons first rest ih =>
    cases rest with
    | nil => simp
    | cons next rest =>
      rw [String.intercalate_cons_cons, encode_append, encode_append, ih]
      simp only [List.map_cons, List.intercalate_cons_cons, List.append_assoc]

/-- An ASCII character is its only byte. -/
theorem utf8EncodeChar_of_lt {c : Char} (hc : c.toNat < 0x80) :
    String.utf8EncodeChar c = [UInt8.ofNat c.toNat] := by
  have hle : c.val.toNat ≤ 0x7F := Nat.le_of_lt_succ hc
  simp only [String.utf8EncodeChar, if_pos hle]
  rfl

/-- A byte below 128 among the bytes of a character is the character. -/
theorem ofNat_of_mem_utf8EncodeChar {c : Char} {b : UInt8} (hb : b ∈ String.utf8EncodeChar c)
    (hlt : b.toNat < 0x80) : Char.ofNat b.toNat = c := by
  -- Every byte of a longer character is at least 128.
  have hbyte {n : Nat} (hlow : 0x80 ≤ n) (hhigh : n < 0x100) (heq : b = UInt8.ofNat n) : False := by
    rw [heq, UInt8.toNat_ofNat', Nat.mod_eq_of_lt hhigh] at hlt
    omega
  unfold String.utf8EncodeChar at hb
  dsimp only at hb
  split_ifs at hb with h₁ h₂ h₃
  · rw [List.mem_singleton.mp hb, UInt8.toNat_ofNat', Nat.mod_eq_of_lt (by omega)]
    exact Char.ofNat_toNat c
  · simp only [List.mem_cons, List.not_mem_nil, or_false] at hb
    rcases hb with hb | hb <;> exact (hbyte (by omega) (by omega) hb).elim
  · simp only [List.mem_cons, List.not_mem_nil, or_false] at hb
    rcases hb with hb | hb | hb <;> exact (hbyte (by omega) (by omega) hb).elim
  · simp only [List.mem_cons, List.not_mem_nil, or_false] at hb
    rcases hb with hb | hb | hb | hb <;> exact (hbyte (by omega) (by omega) hb).elim

/-- A byte below 128 among the bytes of a text is a character of the text. -/
theorem mem_of_mem_encode {s : String} {b : UInt8} (hb : b ∈ encode s) (hlt : b.toNat < 0x80) :
    Char.ofNat b.toNat ∈ s.toList := by
  obtain ⟨c, hc, hbyte⟩ := List.mem_flatMap.mp hb
  rw [ofNat_of_mem_utf8EncodeChar hbyte hlt]
  exact hc

/-- A text with a character has bytes. -/
theorem encode_ne_nil {s : String} (hs : s.toList ≠ []) : encode s ≠ [] := by
  obtain ⟨c, rest, hcons⟩ := List.exists_cons_of_ne_nil hs
  rw [encode, hcons, List.flatMap_cons]
  exact List.append_ne_nil_of_left_ne_nil String.utf8EncodeChar_ne_nil _

end RelationGateway.Utf8
