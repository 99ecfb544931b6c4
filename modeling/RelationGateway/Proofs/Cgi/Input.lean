import RelationGateway.Cgi.Input
import RelationGateway.Feed
import RelationGateway.Proofs.Text.Basic
import RelationGateway.Proofs.Text.Numeral

/-!
# What is read of a body

A body is read like a feed, up to its declared length and one byte beyond the limit.

* `Declares`, `Declares.toNat_declaredLength`: the numbers that declare a length;
* `toNat_readLimit`: the number of bytes to read, under any limit but the greatest one;
* `readBody_eq_read`, `Declares.readReserved?_eq`: reading a body is reading the feed of its source;
* `readReserved?_of_undeclared`, `readReserved?_greatest`: bodies that are read as empty ones.
-/

namespace RelationGateway.Cgi

variable {contentLength : Option String} {n : Nat} {limit : UInt64} {source : Source}

/-! ## Declared lengths -/

/-- A length is declared: the text without the blanks around it is a numeral for a number of 64
bits, which may have a plus sign in front. -/
def Declares (contentLength : Option String) (n : Nat) : Prop :=
  ∃ text, contentLength = some text ∧
    ∃ numeral, (Text.trim text = numeral ∨ Text.trim text = "+" ++ numeral) ∧
      Text.IsNumeral Text.maxUnsigned64 numeral ∧ n = Text.decimalValue numeral

theorem declares_iff :
    Declares contentLength n ↔
      (contentLength.bind fun s => Text.unsigned? Text.maxUnsigned64 (Text.trim s)) = some n := by
  simp only [Declares, Option.bind_eq_some_iff, Text.unsigned?_eq_some_iff_numeral]

/-- A digit is not blank. -/
theorem not_isBlank_of_isDigit {c : Char} (h : c.isDigit) : ¬ Text.isBlank c := by
  have hall : ∀ c : Char, c.toNat < 127 → c.isDigit → ¬ Text.isBlank c :=
    Text.forall_toNat_lt (by decide +kernel)
  exact hall c (Text.toNat_lt_of_isAlphanum (by simp [Char.isAlphanum, h])) h

/-- There are no blanks around a numeral alone. -/
theorem trim_eq_self_of_isDigit {numeral : String} (h : ∀ c ∈ numeral.toList, c.isDigit) :
    Text.trim numeral = numeral :=
  Text.trim_eq_self
    ⟨fun c hc => not_isBlank_of_isDigit (h c (List.mem_of_mem_head? hc)),
      fun c hc => not_isBlank_of_isDigit (h c (List.mem_of_mem_getLast? hc))⟩

/-- A numeral alone declares its value. -/
theorem declares_numeral {numeral : String} (h : Text.IsNumeral Text.maxUnsigned64 numeral) :
    Declares (some numeral) (Text.decimalValue numeral) :=
  ⟨numeral, rfl, numeral, .inl (trim_eq_self_of_isDigit h.isDigit), h, rfl⟩

/-- A number that is declared is not beyond the greatest word. -/
theorem Declares.lt_size (h : Declares contentLength n) : n < UInt64.size := by
  obtain ⟨_, -, numeral, -, hnumeral, rfl⟩ := h
  exact Nat.lt_of_le_of_lt hnumeral.value_le (by decide)

/-- The declared length is the number that is declared. -/
theorem Declares.toNat_declaredLength (h : Declares contentLength n) :
    (declaredLength contentLength).toNat = n := by
  rw [declaredLength, declares_iff.mp h]
  exact UInt64.toNat_ofNat_of_lt' h.lt_size

/-- Where no number but zero is declared, the declared length is zero. -/
theorem declaredLength_eq_zero (h : ∀ n, Declares contentLength n → n = 0) :
    declaredLength contentLength = 0 := by
  rw [declaredLength]
  split
  next n hn =>
    rw [h n (declares_iff.mpr hn)]
    rfl
  next => rfl

/-! ## Bytes to read -/

theorem toNat_readLimit_eq_min (declared limit : UInt64) :
    (readLimit declared limit).toNat = min declared.toNat (limit + 1).toNat := by
  have hmin : readLimit declared limit = if declared ≤ limit + 1 then declared else limit + 1 := rfl
  rw [hmin, apply_ite UInt64.toNat, Nat.min_def]
  simp only [UInt64.le_iff_toNat_le]

/-- Where no length is declared, there are no bytes to read. -/
theorem toNat_readLimit_zero (limit : UInt64) : (readLimit 0 limit).toNat = 0 := by
  rw [toNat_readLimit_eq_min]
  exact Nat.zero_min _

/-- As many bytes are read as are declared, but not more than one beyond the limit. -/
theorem toNat_readLimit (hlimit : limit.toNat < UInt64.size - 1) (declared : UInt64) :
    (readLimit declared limit).toNat = min declared.toNat (limit.toNat + 1) := by
  rw [toNat_readLimit_eq_min, Feed.toNat_add_one hlimit]

/-- The bytes of a source, and what comes behind them. -/
def Source.feed (source : Source) : Feed String :=
  { bytes := source.bytes, broken := source.broken }

/-- A body that cannot be read. -/
def unreadable (reason : String) : Failure :=
  .invalidRequest ("Failed to read request body: " ++ reason)

/-- Reading a body is reading the feed of its source. -/
theorem readBody_eq_read (source : Source) (contentLength : Option String) (limit : UInt64) :
    readBody source contentLength limit =
      (source.feed.read (readLimit (declaredLength contentLength) limit).toNat).mapError
        unreadable := by
  obtain ⟨bytes, broken⟩ := source
  rw [readBody]
  split
  next hzero =>
    -- Without a length the source is not touched, and no bytes are wanted of its feed.
    rw [hzero, toNat_readLimit_zero, Feed.read_of_le (Nat.zero_le _)]
    rfl
  next =>
    rw [Source.feed, Feed.read]
    cases broken with
    | none => rfl
    | some reason =>
      simp only
      split <;> rfl

/-- Where there is room for the bytes to read of a body, it is read like a feed. -/
theorem Declares.readReserved?_eq (hdeclares : Declares contentLength n)
    (hlimit : limit.toNat < UInt64.size - 1) (hroom : min n (limit.toNat + 1) ≤ maxCapacity)
    (source : Source) :
    readReserved? source contentLength limit =
      some ((source.feed.read (min n (limit.toNat + 1))).mapError unreadable) := by
  have hread : (readLimit (declaredLength contentLength) limit).toNat =
      min n (limit.toNat + 1) := by
    rw [toNat_readLimit hlimit, hdeclares.toNat_declaredLength]
  rw [readReserved?, readBody_eq_read, hread, if_neg (Nat.not_lt.mpr hroom)]

/-- Where there are no bytes to read, the body is empty. -/
theorem readReserved?_of_toNat_readLimit
    (hnone : (readLimit (declaredLength contentLength) limit).toNat = 0) (source : Source) :
    readReserved? source contentLength limit = some (.ok []) := by
  rw [readReserved?, readBody_eq_read, hnone, if_neg (Nat.not_lt_zero _),
    Feed.read_of_le (Nat.zero_le _)]
  rfl

/-- Where no length is declared, the body is empty. -/
theorem readReserved?_of_undeclared (h : ∀ n, Declares contentLength n → n = 0) (source : Source)
    (limit : UInt64) : readReserved? source contentLength limit = some (.ok []) := by
  refine readReserved?_of_toNat_readLimit ?_ source
  rw [declaredLength_eq_zero h, toNat_readLimit_zero]

/-- Under the greatest limit the body is empty, whatever is declared. -/
theorem readReserved?_greatest (hlimit : limit.toNat = UInt64.size - 1)
    (contentLength : Option String) (source : Source) :
    readReserved? source contentLength limit = some (.ok []) := by
  refine readReserved?_of_toNat_readLimit ?_ source
  rw [toNat_readLimit_eq_min, Feed.toNat_add_one_greatest hlimit, Nat.min_zero]

end RelationGateway.Cgi
