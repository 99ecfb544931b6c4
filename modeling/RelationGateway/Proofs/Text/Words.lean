import Mathlib.Data.List.Infix
import RelationGateway.Proofs.Text.Utf8

/-!
# Words survive reading

What is read of a text may differ from it, but a word of letters in what is read stands in the
text as well, if nothing else is turned into letters. Texts and bytes are compared by the codes of
their characters and bytes.

* `WordsFrom`: the words in one list are words in another;
* `Echoes`: a word at the end of what was read so far also stands at the end of the text so far;
* `wordsFrom_encode`, `wordsFrom_decode`: words survive writing and reading as UTF-8.
-/

namespace RelationGateway.Text

/-- Words in what was read, made of the codes that are meant, also stand in the source. -/
def WordsFrom (P : Nat → Prop) (source read : List Nat) : Prop :=
  ∀ word, (∀ n ∈ word, P n) → word <:+: read → word <:+: source

/-- Words in what was read also stand in the source, and at its end if they were read last. -/
structure Echoes (P : Nat → Prop) (source read : List Nat) : Prop where
  /-- A word that was read stands in the source. -/
  words : WordsFrom P source read
  /-- A word that was read last stands at the end of the source. -/
  last : ∀ word, (∀ n ∈ word, P n) → word <:+ read → word <:+ source

variable {P Q : Nat → Prop} {source read : List Nat} {n : Nat}

namespace WordsFrom

theorem trans {middle : List Nat} (h : WordsFrom P source middle) (h' : WordsFrom P middle read) :
    WordsFrom P source read :=
  fun word hword hread => h word hword (h' word hword hread)

/-- Fewer codes make fewer words. -/
theorem mono (h : WordsFrom P source read) (hQ : ∀ n, Q n → P n) : WordsFrom Q source read :=
  fun word hword => h word fun n hn => hQ n (hword n hn)

/-- More of the source may be passed over. -/
theorem append_source (h : WordsFrom P source read) (more : List Nat) :
    WordsFrom P (source ++ more) read :=
  fun word hword hread => (h word hword hread).trans (List.prefix_append source more).isInfix

/-- After anything else, no word has been read last. -/
theorem push_other (h : WordsFrom P source read) (hn : ¬ P n) : Echoes P source (read ++ [n]) := by
  have hlast (word : List Nat) (hword : ∀ m ∈ word, P m) (hread : word <:+ read ++ [n]) :
      word = [] := by
    refine (List.suffix_concat_iff.mp hread).resolve_right ?_
    rintro ⟨front, rfl, -⟩
    exact hn (hword n (by simp))
  refine ⟨fun word hword hread => ?_, fun word hword hread => ?_⟩
  · rcases List.infix_concat_iff.mp hread with hsuffix | hinfix
    · rw [hlast word hword hsuffix]
      exact List.nil_infix
    · exact h word hword hinfix
  · rw [hlast word hword hread]
    exact List.nil_suffix

/-- The same after several others. -/
theorem push_others (h : WordsFrom P source read) {others : List Nat} (hne : others ≠ [])
    (hothers : ∀ n ∈ others, ¬ P n) : Echoes P source (read ++ others) := by
  induction others using List.reverseRecOn with
  | nil => exact absurd rfl hne
  | append_singleton front n ih =>
    obtain ⟨hfront, hn⟩ := List.forall_mem_append.mp hothers
    have hwords : WordsFrom P source (read ++ front) := by
      by_cases hnil : front = []
      · rwa [hnil, List.append_nil]
      · exact (ih hnil hfront).words
    rw [← List.append_assoc]
    exact hwords.push_other (hn n (by simp))

end WordsFrom

namespace Echoes

theorem nil : Echoes P [] [] where
  words _ _ hread := hread
  last _ _ hread := hread

/-- A code may be read as itself. -/
theorem push (h : Echoes P source read) (n : Nat) : Echoes P (source ++ [n]) (read ++ [n]) := by
  have hlast (word : List Nat) (hword : ∀ m ∈ word, P m) (hread : word <:+ read ++ [n]) :
      word <:+ source ++ [n] := by
    rw [List.suffix_concat_iff] at hread ⊢
    refine hread.imp_right ?_
    rintro ⟨front, rfl, hfront⟩
    exact ⟨front, rfl, h.last front (List.forall_mem_append.mp hword).1 hfront⟩
  refine ⟨fun word hword hread => ?_, hlast⟩
  rcases List.infix_concat_iff.mp hread with hsuffix | hinfix
  · exact (hlast word hword hsuffix).isInfix
  · exact (h.words.append_source [n]) word hword hinfix

end Echoes

/-! ## UTF-8 -/

/-- The codes of characters. -/
def charCodes (chars : List Char) : List Nat := chars.map Char.toNat

/-- The codes of bytes. -/
def byteCodes (bytes : List UInt8) : List Nat := bytes.map UInt8.toNat

@[simp]
theorem charCodes_concat (chars : List Char) (c : Char) :
    charCodes (chars ++ [c]) = charCodes chars ++ [c.toNat] := List.map_append

@[simp]
theorem byteCodes_concat (bytes : List UInt8) (b : UInt8) :
    byteCodes (bytes ++ [b]) = byteCodes bytes ++ [b.toNat] := List.map_append

/-- Words of ASCII characters in the bytes of a text stand in the text. -/
theorem wordsFrom_encode (s : String) :
    WordsFrom (· < 0x80) (charCodes s.toList) (byteCodes (Utf8.encode s)) := by
  have hechoes (chars : List Char) : Echoes (· < 0x80) (charCodes chars)
      (byteCodes (chars.flatMap String.utf8EncodeChar)) := by
    induction chars using List.reverseRecOn with
    | nil => exact .nil
    | append_singleton front c ih =>
      rw [charCodes_concat, byteCodes, List.flatMap_append, List.map_append,
        List.flatMap_singleton]
      by_cases hascii : c.toNat < 0x80
      · have hbyte : (String.utf8EncodeChar c).map UInt8.toNat = [c.toNat] := by
          rw [Utf8.utf8EncodeChar_of_lt hascii, List.map_singleton, UInt8.toNat_ofNat',
            Nat.mod_eq_of_lt (by omega)]
        rw [hbyte]
        exact ih.push c.toNat
      · -- None of the bytes of another character is that of an ASCII character.
        refine (ih.words.append_source _).push_others (by simp) (List.forall_mem_map.mpr ?_)
        intro b hb hlt
        refine hascii ?_
        rw [← Utf8.ofNat_of_mem_utf8EncodeChar hb hlt, Utf8.toNat_charOfNat]
        split_ifs
        · exact hlt
        · decide
  exact (hechoes s.toList).words

/-- The value of an open character will be too great for an ASCII character. -/
structure IsLong (c : Utf8.Partial) : Prop where
  /-- The next byte is not the first one of a character. -/
  range : 0x80 ≤ c.low.toNat ∧ c.high.toNat ≤ 0xBF
  /-- The bits read so far are enough, or those of the next byte will be. -/
  bits : 2 ≤ c.value ∨ 2 ≤ c.owed ∧ (1 ≤ c.value ∨ 0x90 ≤ c.low.toNat)

/-- What has been read of some bytes holds no other words than they do. While a character is open,
no word has been read last. -/
def Utf8Echoes (P : Nat → Prop) (bytes : List UInt8) (p : Utf8.Progress) : Prop :=
  match p.open? with
  | none => Echoes P (byteCodes bytes) (charCodes p.read.reverse)
  | some c => WordsFrom P (byteCodes bytes) (charCodes p.read.reverse) ∧ IsLong c

section Decode

variable (hP : ∀ n, P n → 0 < n ∧ n < 0x80) {bytes : List UInt8} {read : List Char}
include hP

/-- What cannot be read makes no word. -/
theorem echoes_replacement (h : WordsFrom P (byteCodes bytes) (charCodes read.reverse)) :
    Echoes P (byteCodes bytes) (charCodes (Utf8.replacement :: read).reverse) := by
  rw [List.reverse_cons, charCodes_concat]
  exact h.push_other fun hn => absurd (hP _ hn).2 (by decide)

/-- A first byte is an ASCII character, opens a character that is none, or cannot be read. -/
theorem utf8Echoes_begin (h : Echoes P (byteCodes bytes) (charCodes read.reverse)) (b : UInt8) :
    Utf8Echoes P (bytes ++ [b]) (Utf8.Progress.begin read b) := by
  have hlt := b.toNat_lt
  have hwords : WordsFrom P (byteCodes (bytes ++ [b])) (charCodes read.reverse) := by
    rw [byteCodes_concat]
    exact h.words.append_source _
  -- Most first bytes leave the whole range to the next one.
  have hrange : 0x80 ≤ (0x80 : UInt8).toNat ∧ (0xBF : UInt8).toNat ≤ 0xBF := by decide
  have hbegin := Utf8.begin_ofNat read (n := b.toNat) hlt
  rw [UInt8.ofNat_toNat] at hbegin
  rw [hbegin]
  split_ifs with hascii
  · have hcode : (Char.ofNat b.toNat).toNat = b.toNat := by
      rw [Utf8.toNat_charOfNat, if_pos (Or.inl (by omega))]
    show Echoes P _ (charCodes (Char.ofNat b.toNat :: read).reverse)
    rw [byteCodes_concat, List.reverse_cons, charCodes_concat, hcode]
    exact h.push b.toNat
  · exact ⟨hwords, hrange, .inl (by dsimp only; omega)⟩
  · exact ⟨hwords, by decide, .inr ⟨Nat.le_refl 2, .inr (by decide)⟩⟩
  · exact ⟨hwords, by decide, .inl (by decide)⟩
  · exact ⟨hwords, hrange, .inr ⟨Nat.le_refl 2, .inl (by dsimp only; omega)⟩⟩
  · exact ⟨hwords, by decide, .inr ⟨by decide, .inr (by decide)⟩⟩
  · exact ⟨hwords, hrange, .inr ⟨Nat.le_succ 2, .inl (by dsimp only; omega)⟩⟩
  · exact ⟨hwords, by decide, .inl (by decide)⟩
  · exact echoes_replacement hP hwords

/-- Each byte keeps what has been read free of other words. -/
theorem Utf8Echoes.feed {p : Utf8.Progress} (h : Utf8Echoes P bytes p) (b : UInt8) :
    Utf8Echoes P (bytes ++ [b]) (p.feed b) := by
  obtain ⟨read, open?⟩ := p
  cases open? with
  | none => exact utf8Echoes_begin hP h b
  | some c =>
    obtain ⟨hwords, hlong⟩ := h
    have hwords' : WordsFrom P (byteCodes (bytes ++ [b])) (charCodes read.reverse) := by
      rw [byteCodes_concat]
      exact hwords.append_source _
    obtain ⟨⟨hlow, hhigh⟩, hbits⟩ := hlong
    rw [Utf8.Progress.feed]
    dsimp only
    split_ifs with hin howed
    · -- The character is finished, and it is no ASCII character.
      have hb : c.low.toNat ≤ b.toNat ∧ b.toNat ≤ c.high.toNat := by
        simpa only [Bool.and_eq_true, decide_eq_true_eq, UInt8.le_iff_toNat_le] using hin
      show Echoes P _ (charCodes (Char.ofNat (c.value * 0x40 + b.toNat % 0x40) :: read).reverse)
      rw [List.reverse_cons, charCodes_concat, Utf8.toNat_charOfNat]
      refine hwords'.push_other fun hn => ?_
      have hcode := hP _ hn
      split_ifs at hcode <;> omega
    · have hb : c.low.toNat ≤ b.toNat ∧ b.toNat ≤ c.high.toNat := by
        simpa only [Bool.and_eq_true, decide_eq_true_eq, UInt8.le_iff_toNat_le] using hin
      exact ⟨hwords', ⟨Nat.le_refl 0x80, Nat.le_refl 0xBF⟩, .inl (by dsimp only; omega)⟩
    · exact utf8Echoes_begin hP (echoes_replacement hP hwords) b

/-- Words in what is read of some bytes stand in the bytes. -/
theorem wordsFrom_decode (bytes : List UInt8) :
    WordsFrom P (byteCodes bytes) (charCodes (Utf8.decode bytes).toList) := by
  have hechoes : Utf8Echoes P bytes (bytes.foldl Utf8.Progress.feed {}) := by
    induction bytes using List.reverseRecOn with
    | nil => exact Echoes.nil
    | append_singleton front b ih =>
      rw [List.foldl_append]
      exact ih.feed hP b
  rw [Utf8.decode, String.toList_ofList, Utf8.Progress.finish]
  revert hechoes
  generalize bytes.foldl Utf8.Progress.feed {} = p
  obtain ⟨read, open?⟩ := p
  intro hechoes
  cases open? with
  | none => exact hechoes.words
  | some c => exact (echoes_replacement hP hechoes.1).words

end Decode

/-! ## Letters -/

/-- The code of an ASCII letter. -/
def IsLetter (n : Nat) : Prop := 0x41 ≤ n ∧ n ≤ 0x5A ∨ 0x61 ≤ n ∧ n ≤ 0x7A

instance : DecidablePred IsLetter := fun _ => inferInstanceAs (Decidable (_ ∨ _))

/-- Only letters are made small letters. -/
theorem isLetter_of_toLower {c : Char} (h : IsLetter c.toLower.toNat) : IsLetter c.toNat := by
  delta Char.toLower at h
  split at h
  next hupper => exact .inl hupper
  next => exact h

/-- Words in what was read stand in the text whatever the case of their letters. -/
theorem WordsFrom.infix_map_toLower {chars read part : List Char}
    (h : WordsFrom IsLetter (charCodes chars) (charCodes read))
    (hpart : ∀ c ∈ part, IsLetter c.toNat) (hread : part <:+: read.map Char.toLower) :
    part <:+: chars.map Char.toLower := by
  -- The part is a word of what was read with its letters made small.
  obtain ⟨before, after, heq⟩ := hread
  obtain ⟨front, back, rfl, hfront, -⟩ := List.map_eq_append_iff.mp heq.symm
  obtain ⟨first, word, rfl, -, rfl⟩ := List.map_eq_append_iff.mp hfront
  have hword : ∀ n ∈ charCodes word, IsLetter n := List.forall_mem_map.mpr fun c hc =>
    isLetter_of_toLower (hpart c.toLower (List.mem_map_of_mem hc))
  have hinfix : charCodes word <:+: charCodes chars := by
    refine h (charCodes word) hword ?_
    have hread : word <:+: first ++ word ++ back := ⟨first, back, rfl⟩
    exact hread.map Char.toNat
  have hlower (cs : List Char) :
      (charCodes cs).map (fun n => (Char.ofNat n).toLower) = cs.map Char.toLower := by
    simp only [charCodes, List.map_map, Function.comp_def, Char.ofNat_toNat]
  rw [← hlower word, ← hlower chars]
  exact hinfix.map _

end RelationGateway.Text
