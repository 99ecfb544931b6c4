/-!
# Feeds

Bytes come one after the other, and then the end or an error. A reader that takes no more than a
number of them does not learn what comes behind.

* `Feed.take`: taking bytes one after the other, up to a number of them;
* `Feed.read`, `Feed.take_eq`: what is read of a feed so, and what is left of it;
* `Feed.mapError`: the feed with another error behind its bytes;
* `Feed.toNat_add_one`, `Feed.toNat_add_one_greatest`: one byte beyond a limit that is a word.
-/

namespace RelationGateway

/-- Bytes that come one after the other, and what comes behind them. -/
structure Feed (ε : Type) where
  /-- The bytes. -/
  bytes : List UInt8
  /-- The error that comes behind them instead of the end. -/
  broken : Option ε := none

namespace Feed

variable {ε : Type}

/-- Takes bytes one after the other until there are as many as wanted, the feed ends or it breaks
off. What is not taken is left. -/
def take : (limit : Nat) → Feed ε → Except ε (List UInt8) × Feed ε
  | 0, feed => (.ok [], feed)
  | limit + 1, feed =>
    match feed.bytes, feed.broken with
    | byte :: rest, _ =>
      let (taken, left) := take limit { feed with bytes := rest }
      (taken.map (byte :: ·), left)
    | [], some error => (.error error, feed)
    | [], none => (.ok [], feed)

/-- The first bytes of a feed, or the error if it comes before them. -/
def read (limit : Nat) (feed : Feed ε) : Except ε (List UInt8) :=
  match feed.broken with
  | some error =>
    if feed.bytes.length < limit then .error error else .ok (feed.bytes.take limit)
  | none => .ok (feed.bytes.take limit)

/-- The feed with the error that comes behind its bytes replaced. -/
def mapError {δ : Type} (f : ε → δ) (feed : Feed ε) : Feed δ :=
  { bytes := feed.bytes, broken := feed.broken.map f }

variable {limit : Nat} {feed : Feed ε}

/-- As many bytes as there are can be read, whatever comes behind them. -/
theorem read_of_le (h : limit ≤ feed.bytes.length) :
    feed.read limit = .ok (feed.bytes.take limit) := by
  unfold read
  split
  · rw [if_neg (Nat.not_lt.mpr h)]
  · rfl

/-- Of a feed that ends, all bytes are read if they are not too many. -/
theorem read_of_ends (hends : feed.broken = none) :
    feed.read limit = .ok (feed.bytes.take limit) := by
  rw [read, hends]

/-- The first bytes are read of a feed that ends or has enough of them. -/
theorem read_eq_ok (h : feed.broken = none ∨ limit ≤ feed.bytes.length) :
    feed.read limit = .ok (feed.bytes.take limit) :=
  h.elim read_of_ends read_of_le

/-- An error that comes before enough bytes is met. -/
theorem read_of_breaks {error : ε} (hbroken : feed.broken = some error)
    (h : feed.bytes.length < limit) : feed.read limit = .error error := by
  simp only [read, hbroken, if_pos h]

/-- Where the error is replaced, the same bytes are read, and the replaced error is met. -/
theorem read_mapError {δ : Type} (f : ε → δ) (limit : Nat) (feed : Feed ε) :
    (feed.mapError f).read limit = (feed.read limit).mapError f := by
  obtain ⟨bytes, broken⟩ := feed
  cases broken with
  | none => rfl
  | some error =>
    by_cases h : bytes.length < limit
    · rw [read_of_breaks rfl h, read_of_breaks rfl h]
      rfl
    · rw [read_of_le (Nat.not_lt.mp h), read_of_le (Nat.not_lt.mp h)]
      rfl

/-- One byte more is read of a feed that has one in front. -/
theorem read_succ_cons (byte : UInt8) (rest : List UInt8) (broken : Option ε) :
    read (limit + 1) { bytes := byte :: rest, broken } =
      (read limit { bytes := rest, broken }).map (byte :: ·) := by
  cases broken with
  | none => rfl
  | some error =>
    simp only [read, List.length_cons, Nat.add_lt_add_iff_right, List.take_succ_cons]
    split <;> rfl

/-- Taking bytes one after the other gives the first bytes of the feed or the error, and leaves all
bytes behind the first ones where they are. -/
theorem take_eq (limit : Nat) (feed : Feed ε) :
    feed.take limit = (feed.read limit, { feed with bytes := feed.bytes.drop limit }) := by
  obtain ⟨bytes, broken⟩ := feed
  -- With each byte that is taken one less is wanted of what is left.
  induction limit generalizing bytes with
  | zero =>
    rw [read_of_le (Nat.zero_le _)]
    rfl
  | succ limit ih =>
    cases bytes with
    | nil => cases broken <;> rfl
    | cons byte rest =>
      have hrest := ih rest
      simp only [take, hrest, read_succ_cons, List.drop_succ_cons]

/-- One more than a limit is a word too, unless the limit is the greatest one. -/
theorem toNat_add_one {limit : UInt64} (h : limit.toNat < UInt64.size - 1) :
    (limit + 1).toNat = limit.toNat + 1 := by
  rw [UInt64.toNat_add, UInt64.toNat_one]
  exact Nat.mod_eq_of_lt (Nat.add_lt_of_lt_sub h)

/-- One more than the greatest limit wraps to nothing. -/
theorem toNat_add_one_greatest {limit : UInt64} (h : limit.toNat = UInt64.size - 1) :
    (limit + 1).toNat = 0 := by
  rw [UInt64.toNat_add, h]
  rfl

end Feed

end RelationGateway
