import RelationGateway.Proofs.Text.Words
import RelationGateway.Url.Percent

/-!
# Letters in names of variables

The name of a variable may be written with escapes. If none of them is the escape of a letter, the
words in the name that is read are words in the name that is written.

* `EscapesLetter`: a letter is written as an escape;
* `wordsFrom_unescape`: words survive the reading of escapes;
* `wordsFrom_decode`: the words of a name that is read.
-/

namespace RelationGateway.Url

open Text

/-- The escapes of letters. Their second digits may be capital or small letters. -/
def letterEscapes : List (List Char) :=
  ((List.range 0x80).filter (IsLetter ·)).flatMap fun n =>
    let escape := ['%', hexDigit (n / 16), hexDigit (n % 16)]
    [escape, escape.map Char.toLower]

/-- A letter is written as an escape. -/
def EscapesLetter (s : String) : Prop := ∃ escape ∈ letterEscapes, escape <:+: s.toList

instance : DecidablePred EscapesLetter := fun s => by
  unfold EscapesLetter
  infer_instance

/-- A byte with a hexadecimal value is the digit of this value, which may be a small letter. -/
theorem eq_hexDigit_of_hexValue? {b value : UInt8} (h : hexValue? b = some value) :
    value.toNat < 16 ∧ (Char.ofNat b.toNat = hexDigit value.toNat ∨
      Char.ofNat b.toNat = (hexDigit value.toNat).toLower) := by
  -- A test for the one value: to decide it for all bytes, each would be compared with the value.
  have hall : ∀ n < 256, (hexValue? (UInt8.ofNat n)).all fun value => value.toNat < 16 ∧
      (Char.ofNat n = hexDigit value.toNat ∨ Char.ofNat n = (hexDigit value.toNat).toLower) := by
    decide +kernel
  have hbyte := hall b.toNat b.toNat_lt
  rw [UInt8.ofNat_toNat, h] at hbyte
  simpa using hbyte

/-- Two digits whose value is the code of a letter make an escape of it. -/
theorem mem_letterEscapes {first second high low : UInt8} (hfirst : hexValue? first = some high)
    (hsecond : hexValue? second = some low) (hletter : IsLetter (high * 16 + low).toNat) :
    ['%', Char.ofNat first.toNat, Char.ofNat second.toNat] ∈ letterEscapes := by
  obtain ⟨hhigh, hfirst⟩ := eq_hexDigit_of_hexValue? hfirst
  obtain ⟨hlow, hsecond⟩ := eq_hexDigit_of_hexValue? hsecond
  have hvalue : (high * 16 + low).toNat = high.toNat * 16 + low.toNat := by
    simp only [UInt8.toNat_add, UInt8.toNat_mul, UInt8.toNat_ofNat]
    omega
  rw [hvalue] at hletter
  generalize high.toNat = m at *
  generalize low.toNat = n at *
  have hrange : m < 8 := by
    unfold IsLetter at hletter
    omega
  -- The first digit is not a letter, so it has only one form.
  have hone : ∀ k < 8, (hexDigit k).toLower = hexDigit k := by decide
  rw [hone m hrange, or_self] at hfirst
  have hdiv : (m * 16 + n) / 16 = m ∧ (m * 16 + n) % 16 = n := by omega
  refine List.mem_flatMap.mpr ⟨m * 16 + n, List.mem_filter.mpr ⟨?_, decide_eq_true hletter⟩, ?_⟩
  · exact List.mem_range.mpr (by omega)
  · rw [hdiv.1, hdiv.2, hfirst]
    rcases hsecond with hsecond | hsecond
    · simp [hsecond]
    · simp [hsecond, hone m hrange, show '%'.toLower = '%' by decide]

/-! ## Reading escapes -/

/-- No escape among the bytes is that of a letter. -/
def LettersPlain (bytes : List UInt8) : Prop :=
  ∀ first second high low, [0x25, first, second] <:+: bytes → hexValue? first = some high →
    hexValue? second = some low → ¬ IsLetter (high * 16 + low).toNat

/-- What has been read of some bytes holds no other words than they do. An escape that has been
begun stands at their end and has not been read. -/
def Unescaping.Echoes (bytes : List UInt8) (u : Unescaping) : Prop :=
  match u.begun with
  | .none => Text.Echoes IsLetter (byteCodes bytes) (byteCodes u.read.reverse)
  | .sign => ∃ front, bytes = front ++ [0x25] ∧
    WordsFrom IsLetter (byteCodes front) (byteCodes u.read.reverse)
  | .digit first high => ∃ front, bytes = front ++ [0x25] ++ [first] ∧
    hexValue? first = some high ∧ WordsFrom IsLetter (byteCodes front) (byteCodes u.read.reverse)

namespace Unescaping

variable {bytes front read : List UInt8}

/-- A byte that belongs to no escape begun before is read as itself or begins an escape. -/
theorem echoes_fresh (h : Text.Echoes IsLetter (byteCodes bytes) (byteCodes read.reverse))
    (b : UInt8) : Echoes (bytes ++ [b]) (fresh read b) := by
  unfold fresh
  split_ifs with hsign
  · exact ⟨bytes, by rw [beq_iff_eq.mp hsign], h.words⟩
  · show Text.Echoes IsLetter _ (byteCodes (b :: read).reverse)
    rw [byteCodes_concat, List.reverse_cons, byteCodes_concat]
    exact h.push b.toNat

/-- A percent sign that stands for itself makes no word. -/
theorem echoes_sign (h : WordsFrom IsLetter (byteCodes front) (byteCodes read.reverse)) :
    Text.Echoes IsLetter (byteCodes (front ++ [0x25])) (byteCodes (0x25 :: read).reverse) := by
  rw [byteCodes_concat, List.reverse_cons, byteCodes_concat]
  exact (h.append_source _).push_other (by decide)

/-- Each byte keeps what has been read free of other words. -/
theorem Echoes.feed {u : Unescaping} (h : Echoes bytes u) (b : UInt8)
    (hplain : LettersPlain (bytes ++ [b])) : Echoes (bytes ++ [b]) (u.feed b) := by
  obtain ⟨read, begun⟩ := u
  rw [Unescaping.feed]
  cases begun with
  | none => exact echoes_fresh h b
  | sign =>
    obtain ⟨front, rfl, hwords⟩ := h
    dsimp only
    cases hvalue : hexValue? b with
    | some value => exact ⟨front, rfl, hvalue, hwords⟩
    | none => exact echoes_fresh (echoes_sign hwords) b
  | digit first high =>
    obtain ⟨front, rfl, hfirst, hwords⟩ := h
    dsimp only
    cases hvalue : hexValue? b with
    | some low =>
      -- The escape is finished, and it is not that of a letter.
      have hother : ¬ IsLetter (high * 16 + low).toNat :=
        hplain first b high low ⟨front, [], by simp⟩ hfirst hvalue
      show Text.Echoes IsLetter _ (byteCodes ((high * 16 + low) :: read).reverse)
      rw [List.reverse_cons, byteCodes_concat _ (high * 16 + low)]
      simp only [byteCodes_concat]
      exact (((hwords.append_source _).append_source _).append_source _).push_other hother
    | none =>
      refine echoes_fresh ?_ b
      have hsign := echoes_sign hwords
      rw [byteCodes_concat _ first, List.reverse_cons, byteCodes_concat _ first]
      exact hsign.push first.toNat

end Unescaping

/-- Words of letters survive the reading of escapes, if none is that of a letter. -/
theorem wordsFrom_unescape {bytes : List UInt8} (hplain : LettersPlain bytes) :
    WordsFrom IsLetter (byteCodes bytes) (byteCodes (unescape bytes)) := by
  have hechoes : Unescaping.Echoes bytes (bytes.foldl Unescaping.feed {}) := by
    induction bytes using List.reverseRecOn with
    | nil => exact Echoes.nil
    | append_singleton front b ih =>
      rw [List.foldl_append]
      refine (ih ?_).feed b hplain
      exact fun first second high low hin =>
        hplain first second high low (hin.trans (List.prefix_append _ _).isInfix)
  rw [unescape, Unescaping.finish]
  revert hechoes
  generalize bytes.foldl Unescaping.feed {} = u
  obtain ⟨read, begun⟩ := u
  intro hechoes
  cases begun with
  | none => exact hechoes.words
  | sign =>
    obtain ⟨front, rfl, hwords⟩ := hechoes
    exact (Unescaping.echoes_sign hwords).words
  | digit first high =>
    obtain ⟨front, rfl, -, hwords⟩ := hechoes
    have hsign := Unescaping.echoes_sign hwords
    dsimp only
    rw [byteCodes_concat _ first, List.reverse_cons, byteCodes_concat _ first]
    exact (hsign.push first.toNat).words

/-! ## Names -/

/-- Words without spaces stand in the text whose plus signs are read as spaces. -/
theorem wordsFrom_substitute (s : String) :
    WordsFrom (· ≠ 0x20) (charCodes s.toList) (charCodes (Text.substitute '+' ' ' s).toList) := by
  rw [Text.substitute, String.toList_map]
  have hechoes (chars : List Char) : Echoes (· ≠ 0x20) (charCodes chars)
      (charCodes (chars.map fun c => if c == '+' then ' ' else c)) := by
    induction chars using List.reverseRecOn with
    | nil => exact .nil
    | append_singleton front c ih =>
      rw [List.map_append, List.map_singleton, charCodes_concat, charCodes_concat]
      split_ifs with hplus
      · exact (ih.words.append_source _).push_other (by decide)
      · exact ih.push c.toNat
  exact (hechoes s.toList).words

/-- Words of ASCII characters other than spaces stand in a name whose bytes are read. -/
theorem wordsFrom_bytes (s : String) :
    WordsFrom (fun n => n < 0x80 ∧ n ≠ 0x20) (charCodes s.toList)
      (byteCodes (Utf8.encode (Text.substitute '+' ' ' s))) :=
  ((wordsFrom_substitute s).mono fun _ hn => hn.2).trans
    ((wordsFrom_encode _).mono fun _ hn => hn.1)

/-- A hexadecimal digit is an ASCII character other than the space. -/
theorem code_of_hexValue? {b value : UInt8} (h : hexValue? b = some value) :
    b.toNat < 0x80 ∧ b.toNat ≠ 0x20 := by
  simp only [hexValue?, Bool.and_eq_true, decide_eq_true_eq, UInt8.le_iff_toNat_le] at h
  have hdigits : (0x30 : UInt8).toNat = 0x30 ∧ (0x39 : UInt8).toNat = 0x39 ∧
      (0x41 : UInt8).toNat = 0x41 ∧ (0x46 : UInt8).toNat = 0x46 ∧
      (0x61 : UInt8).toNat = 0x61 ∧ (0x66 : UInt8).toNat = 0x66 := by decide
  split_ifs at h <;> omega

/-- If no letter of a name is written as an escape, none of the escapes that are read is that of a
letter. -/
theorem lettersPlain_of_not_escapesLetter {s : String} (h : ¬ EscapesLetter s) :
    LettersPlain (Utf8.encode (Text.substitute '+' ' ' s)) := by
  intro first second high low hin hfirst hsecond hletter
  refine h ⟨_, mem_letterEscapes hfirst hsecond hletter, ?_⟩
  -- The escape is a word of the bytes, so it stands in the name that is written.
  have hword : ∀ n ∈ byteCodes [0x25, first, second], n < 0x80 ∧ n ≠ 0x20 :=
    List.forall_mem_map.mpr (List.forall_mem_cons.mpr ⟨by decide, List.forall_mem_cons.mpr
      ⟨code_of_hexValue? hfirst, List.forall_mem_singleton.mpr (code_of_hexValue? hsecond)⟩⟩)
  have hwritten := (wordsFrom_bytes s _ hword (hin.map UInt8.toNat)).map Char.ofNat
  simpa [charCodes, byteCodes, Function.comp_def] using hwritten

/-- The words of a name that is read stand in the name that is written, if no letter of it is
written as an escape. -/
theorem wordsFrom_decode {s : String} (h : ¬ EscapesLetter s) :
    WordsFrom IsLetter (charCodes s.toList) (charCodes (decode s).toList) := by
  have hascii (n : Nat) (hn : IsLetter n) : 0 < n ∧ n < 0x80 ∧ n ≠ 0x20 := by
    unfold IsLetter at hn
    omega
  have hread : WordsFrom IsLetter (byteCodes (unescape (Utf8.encode (Text.substitute '+' ' ' s))))
      (charCodes (decode s).toList) :=
    Text.wordsFrom_decode (fun n hn => ⟨(hascii n hn).1, (hascii n hn).2.1⟩) _
  exact ((wordsFrom_bytes s).mono fun n hn => (hascii n hn).2).trans
    ((wordsFrom_unescape (lettersPlain_of_not_escapesLetter h)).trans hread)

end RelationGateway.Url
