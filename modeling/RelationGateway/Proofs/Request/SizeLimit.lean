import RelationGateway.Proofs.Cgi.Input
import RelationGateway.Proofs.Request.Expansion

/-!
# Bodies at the limit

Of a body one byte beyond the limit is read, so that reading it into a request can tell that the
limit is passed. The two together neither cut a body short nor look at more of it than they should.

* `read_eq_bodyTooLarge_iff`: the bodies that are too large as they were sent;
* `read_limited`: what is read of a source, and when that is too large;
* `limit_kept`: under which limits and for which numerals the limit holds.
-/

namespace RelationGateway.Request

variable {r : Request} {body : List UInt8} {settings : Settings} {expander : Gzip.Expander}

/-! ## Bodies that are too large as sent -/

/-- The two messages on bodies that are too large begin with different letters. -/
theorem bodyTooLarge_ne_expandedTooLarge (size limit other : Nat) :
    bodyTooLarge size limit ≠ expandedTooLarge other := by
  intro h
  have htext := Failure.payloadTooLarge.inj h
  have hletter := congrArg (fun s => s.toList.head?) htext
  simp at hletter

/-- A body that cannot be expanded is not one that is too large as it was sent. -/
theorem expandBody_ne_bodyTooLarge (expander : Gzip.Expander) (member : List UInt8)
    (maxBodySize : UInt64) (size limit : Nat) :
    expandBody expander member maxBodySize ≠ .error (bodyTooLarge size limit) := by
  rw [expandBody]
  split
  · -- What breaks off is an invalid request, and not a body that is too large.
    simp [notExpandable, bodyTooLarge]
  · split
    · simp [(bodyTooLarge_ne_expandedTooLarge size limit _).symm]
    · simp

/-- A body is refused as too large as it was sent exactly when it is over the limit. -/
theorem read_eq_bodyTooLarge_iff :
    (∃ size, r.read body settings expander =
        .error (bodyTooLarge size settings.maxBodySize.toNat)) ↔
      settings.maxBodySize.toNat < body.length := by
  simp only [read_eq_error_iff, expandBody_ne_bodyTooLarge, and_false, or_false]
  exact ⟨fun ⟨_, h, _⟩ => h, fun h => ⟨_, h, rfl⟩⟩

/-! ## Reading and limiting -/

/-- Where a length is declared, as many bytes are read of a source as there are, are declared, and
are not more than one beyond the limit. The body that they are is too large exactly if the bytes
that are there and declared are, and else it is all of these. An error of the source is met if it
comes before the bytes to read, and not noticed behind them. Without a length the body is empty. -/
theorem read_limited (hlimit : settings.maxBodySize.toNat + 1 < 2 ^ 63) (source : Cgi.Source)
    (contentLength : Option String) :
    let limit := settings.maxBodySize.toNat
    let given := source.bytes
    let result := Cgi.readReserved? source contentLength settings.maxBodySize
    (∀ n, Cgi.Declares contentLength n →
        (source.broken = none ∨ min n (limit + 1) ≤ given.length →
          ∃ body, result = some (.ok body) ∧
            body = given.take (min given.length (min n (limit + 1))) ∧
            (∀ (r : Request) (expander : Gzip.Expander),
              (∃ size, r.read body settings expander = .error (bodyTooLarge size limit)) ↔
                limit < min given.length n) ∧
            (min given.length n ≤ limit → body = given.take (min given.length n))) ∧
        ∀ reason, source.broken = some reason → given.length < min n (limit + 1) →
          result = some (.error (Cgi.unreadable reason))) ∧
      ((∀ n, Cgi.Declares contentLength n → n = 0) → result = some (.ok [])) := by
  intro limit given result
  -- A limit that there is room for is far from the greatest word.
  have hword : limit < UInt64.size - 1 := Nat.lt_sub_of_add_lt (hlimit.trans (by decide))
  refine ⟨fun n hdeclares => ?_, fun hnone => ?_⟩
  · have hroom : min n (limit + 1) ≤ Cgi.maxCapacity :=
      (Nat.min_le_right _ _).trans (Nat.le_sub_one_of_lt hlimit)
    have hresult : result = some ((source.feed.read (min n (limit + 1))).mapError Cgi.unreadable) :=
      hdeclares.readReserved?_eq hword hroom source
    refine ⟨fun hgiven => ?_, fun reason hbroken hless => ?_⟩
    · have hread : source.feed.read (min n (limit + 1)) =
          .ok (given.take (min given.length (min n (limit + 1)))) := by
        rw [Feed.read_eq_ok hgiven, Nat.min_comm given.length, ← List.take_eq_take_min]
        rfl
      have hlength : (given.take (min given.length (min n (limit + 1)))).length =
          min given.length (min n (limit + 1)) :=
        List.length_take_of_le (Nat.min_le_left _ _)
      refine ⟨_, by rw [hresult, hread]; rfl, rfl, fun r expander => ?_, fun hfits => ?_⟩
      · -- More than the limit is read exactly if the byte beyond it is.
        rw [read_eq_bodyTooLarge_iff, hlength]
        omega
      · congr 1
        omega
    · have hread : source.feed.read (min n (limit + 1)) = .error reason :=
        Feed.read_of_breaks hbroken hless
      rw [hresult, hread]
      rfl
  · exact Cgi.readReserved?_of_undeclared hnone source _

/-- The fourth of five declared bytes is one beyond a limit of three, and the source breaks off
right behind it. -/
theorem read_limited_next_byte :
    let settings : Settings := { maxBodySize := 3 }
    let source : Cgi.Source := { bytes := Utf8.encode "abcd", broken := some "connection reset" }
    settings.maxBodySize.toNat + 1 < 2 ^ 63 ∧ Cgi.Declares (some " +5 ") 5 ∧
      ∃ body, Cgi.readReserved? source (some " +5 ") 3 = some (.ok body) ∧
        body = Utf8.encode "abcd" ∧
        ∀ (r : Request) (expander : Gzip.Expander), ∃ size,
          r.read body settings expander = .error (bodyTooLarge size 3) := by
  intro settings source
  have hlimit : settings.maxBodySize.toNat + 1 < 2 ^ 63 := by decide
  have hdeclares : Cgi.Declares (some " +5 ") 5 :=
    ⟨" +5 ", rfl, "5", .inr (by decide +kernel), by decide, by decide⟩
  obtain ⟨body, hresult, hbody, hlarge, -⟩ :=
    ((read_limited hlimit source (some " +5 ")).1 5 hdeclares).1 (.inr (by decide +kernel))
  have hall : body = Utf8.encode "abcd" := by
    rw [hbody]
    decide +kernel
  exact ⟨hlimit, hdeclares, body, hresult, hall,
    fun r expander => (hlarge r expander).mpr (by decide +kernel)⟩

/-! ## Extreme limits and numerals -/

/-- Under the greatest limit a compressed body expands to nothing. -/
theorem expandBody_greatest {limit : UInt64} (hlimit : limit.toNat = UInt64.size - 1)
    (member : List UInt8) : expandBody expander member limit = .ok [] := by
  rw [expandBody, Feed.toNat_add_one_greatest hlimit, expander.read_eq,
    Feed.read_of_le (Nat.zero_le _)]
  rfl

/-- The limit holds, be it any but the greatest one and the numeral any of 64 bits, if there is room
for the bytes to read. There is an answer then, and one byte beyond the limit can be asked for, both
of the body and of what it expands to. A body within the limit is read completely, and so is what a
compressed one expands to. A body that is declared longer than the limit, and is, is too large. -/
theorem limit_kept (hlimit : settings.maxBodySize.toNat < UInt64.size - 1) {numeral : String}
    (hnumeral : Text.IsNumeral Text.maxUnsigned64 numeral)
    (hroom : min (Text.decimalValue numeral) (settings.maxBodySize.toNat + 1) ≤ Cgi.maxCapacity)
    (source : Cgi.Source) :
    let limit := settings.maxBodySize.toNat
    let n := Text.decimalValue numeral
    let result := Cgi.readReserved? source (some numeral) settings.maxBodySize
    (Cgi.readLimit (Cgi.declaredLength (some numeral)) settings.maxBodySize).toNat =
        min n (limit + 1) ∧
      (settings.maxBodySize + 1).toNat = limit + 1 ∧
      result.isSome ∧
      (source.broken = none → min source.bytes.length n ≤ limit →
        result = some (.ok (source.bytes.take n))) ∧
      (∀ (expander : Gzip.Expander) (member : List UInt8), (expander.feed member).broken = none →
        (expander.feed member).bytes.length ≤ limit →
        expandBody expander member settings.maxBodySize = .ok (expander.feed member).bytes) ∧
      (limit < n → limit < source.bytes.length →
        ∃ body, result = some (.ok body) ∧
          ∀ (r : Request) (expander : Gzip.Expander),
            r.read body settings expander = .error (bodyTooLarge (limit + 1) limit)) := by
  intro limit n result
  have hdeclares : Cgi.Declares (some numeral) n := Cgi.declares_numeral hnumeral
  have hresult : result = some ((source.feed.read (min n (limit + 1))).mapError Cgi.unreadable) :=
    hdeclares.readReserved?_eq hlimit hroom source
  refine ⟨?_, Feed.toNat_add_one hlimit, Option.isSome_of_eq_some hresult, fun hends hfits => ?_,
    fun expander member hends hfits => ?_, fun hdeclared hgiven => ?_⟩
  · rw [Cgi.toNat_readLimit hlimit, hdeclares.toNat_declaredLength]
  · have hread : source.feed.read (min n (limit + 1)) = .ok (source.bytes.take n) := by
      have hsame : min (min n (limit + 1)) source.bytes.length = min n source.bytes.length := by
        omega
      rw [Feed.read_of_ends hends]
      exact congrArg Except.ok (List.take_eq_take_iff.mpr hsame)
    rw [hresult, hread]
    rfl
  · rw [expandBody_eq hlimit, limited_of_ends hends hfits]
  · have hread : source.feed.read (min n (limit + 1)) = .ok (source.bytes.take (limit + 1)) := by
      rw [Nat.min_eq_right hdeclared, Feed.read_of_le hgiven]
      rfl
    refine ⟨_, by rw [hresult, hread]; rfl, fun r expander => ?_⟩
    have hlength : (source.bytes.take (limit + 1)).length = limit + 1 :=
      List.length_take_of_le hgiven
    rw [read, hlength, if_pos (Nat.lt_succ_self limit)]

/-- The greatest numeral of 64 bits stands before a body that is too large, and the greatest limit
but one before a body of three bytes. -/
theorem limit_kept_edges :
    let source : Cgi.Source := { bytes := Utf8.encode "abcdefghij" }
    let declared := "18446744073709551615"
    let narrow : Settings := { maxBodySize := 3 }
    let wide : Settings := { maxBodySize := 18446744073709551614 }
    (Text.IsNumeral Text.maxUnsigned64 declared ∧ narrow.maxBodySize.toNat < UInt64.size - 1 ∧
        min (Text.decimalValue declared) (narrow.maxBodySize.toNat + 1) ≤ Cgi.maxCapacity) ∧
      (∃ body, Cgi.readReserved? source (some declared) 3 = some (.ok body) ∧
        ∀ (r : Request) (expander : Gzip.Expander),
          r.read body narrow expander = .error (bodyTooLarge 4 3)) ∧
      (Text.IsNumeral Text.maxUnsigned64 "003" ∧ wide.maxBodySize.toNat < UInt64.size - 1 ∧
        min (Text.decimalValue "003") (wide.maxBodySize.toNat + 1) ≤ Cgi.maxCapacity) ∧
      Cgi.readReserved? source (some "003") 18446744073709551614 =
        some (.ok (Utf8.encode "abc")) := by
  intro source declared narrow wide
  have hdeclared : Text.IsNumeral Text.maxUnsigned64 declared := by decide
  have hnarrow : narrow.maxBodySize.toNat < UInt64.size - 1 := by decide
  have hroom : min (Text.decimalValue declared) (narrow.maxBodySize.toNat + 1) ≤
      Cgi.maxCapacity := by decide
  have hthree : Text.IsNumeral Text.maxUnsigned64 "003" := by decide
  have hwide : wide.maxBodySize.toNat < UInt64.size - 1 := by decide
  have hroom' : min (Text.decimalValue "003") (wide.maxBodySize.toNat + 1) ≤
      Cgi.maxCapacity := by decide
  obtain ⟨-, -, -, -, -, hlarge⟩ := limit_kept hnarrow hdeclared hroom source
  obtain ⟨-, -, -, hfits, -⟩ := limit_kept hwide hthree hroom' source
  have hbytes : source.bytes.take (Text.decimalValue "003") = Utf8.encode "abc" := by
    decide +kernel
  refine ⟨⟨hdeclared, hnarrow, hroom⟩, hlarge (by decide) (by decide +kernel),
    ⟨hthree, hwide, hroom'⟩, ?_⟩
  rw [← hbytes]
  exact hfits rfl (by decide +kernel)

/-- The greatest limit can be set, and under it three bytes are read as an empty body, and so are
those that a member expands to. A numeral of more than 64 bits stands for no length, so that a body
over the limit is taken for an empty one and not refused. There is no room for 2 ^ 63 bytes. -/
theorem limit_lost :
    let greatest : UInt64 := 18446744073709551615
    let vars := [("PGBRIDGE_MAX_BODY_SIZE", "18446744073709551615")]
    let member : List UInt8 := [0x1F, 0x8B, 0x08, 0x00, 0x00, 0x00, 0x00, 0x00, 0x00, 0xFF, 0x4B,
      0x4C, 0x4A, 0x06, 0x00, 0xC2, 0x41, 0x24, 0x35, 0x03, 0x00, 0x00, 0x00]
    (Settings.ofVariables fun name => vars.lookup name).maxBodySize = greatest ∧
      Cgi.readReserved? { bytes := Utf8.encode "abc" } (some "3") greatest = some (.ok []) ∧
      ((Gzip.Expander.ofMembers.feed member).bytes = Utf8.encode "abc" ∧
        expandBody .ofMembers member greatest = .ok []) ∧
      (Cgi.readReserved? { bytes := Utf8.encode "abcdefghij" } (some "18446744073709551616") 3 =
          some (.ok []) ∧
        ∀ (r : Request) (expander : Gzip.Expander),
          r.read [] { maxBodySize := 3 } expander = .ok r) ∧
      Cgi.readReserved? { bytes := Utf8.encode "abc" } (some "9223372036854775808")
        9223372036854775808 = none := by
  refine ⟨by decide +kernel, Cgi.readReserved?_greatest rfl _ _,
    ⟨by decide +kernel, expandBody_greatest rfl _⟩,
    ⟨Cgi.readReserved?_of_undeclared (fun n hdeclares => ?_) _ _, fun r expander => ?_⟩, ?_⟩
  · -- A numeral of sixty-five bits is read as no number.
    have hnone := Cgi.declares_iff.mp hdeclares
    have hbeyond : Text.unsigned? Text.maxUnsigned64 (Text.trim "18446744073709551616") = none := by
      decide +kernel
    rw [Option.bind_some, hbeyond] at hnone
    cases hnone
  · rw [read, if_neg (by decide), if_pos (.inr rfl)]
  · have hroom : Cgi.maxCapacity < (Cgi.readLimit (Cgi.declaredLength (some "9223372036854775808"))
        9223372036854775808).toNat := by
      decide +kernel
    rw [Cgi.readReserved?, if_pos hroom]

end RelationGateway.Request
