import RelationGateway.Proofs.Request.Payload

/-!
# Compressed bodies

A compressed body is read like the bytes that it expands to. They are taken out of it one after the
other, and not more than one beyond the limit, so that what decides is where the bytes end or break
off.

* `withoutCoding`: the request as if its body were not compressed;
* `read_compressed`: how a compressed body is read.
-/

namespace RelationGateway.NameTable

variable {rule : NameRule} {t : NameTable rule} {name other : String}

/-- A name that is removed has no value. -/
theorem get?_erase_self : (t.erase name).get? name = none := by
  rw [get?_eq, toList_erase, List.find?_filter, Option.map_eq_none_iff, List.find?_eq_none]
  simp

/-- Removing a name leaves the values of names with other keys. -/
theorem get?_erase_of_ne (h : rule.key other ≠ rule.key name) :
    (t.erase name).get? other = t.get? other := by
  rw [get?_eq, get?_eq, toList_erase, List.find?_filter]
  -- A pair that is found under the other key is not among those that are removed.
  congr 2
  funext pair
  by_cases hpair : rule.key pair.1 = rule.key other <;> simp [hpair, h]

end RelationGateway.NameTable

namespace RelationGateway.Request

variable {r : Request} {body content : List UInt8} {settings : Settings}
  {expander : Gzip.Expander}

/-! ## Requests without a coding -/

/-- The request without the header that names the coding of its body. -/
def withoutCoding (r : Request) : Request :=
  { r with headers := r.headers.erase "Content-Encoding" }

theorem isCompressed_withoutCoding (r : Request) : r.withoutCoding.isCompressed = false := by
  have hempty : Text.sameIgnoringCase "" "gzip" = false := by decide +kernel
  rw [isCompressed, withoutCoding, NameTable.get?_erase_self]
  exact hempty

/-- The media type of the body is in another header. -/
theorem mediaType_withoutCoding (r : Request) : r.withoutCoding.mediaType = r.mediaType := by
  have hother : NameRule.key .ignoringCase "Content-Type" ≠
      NameRule.key .ignoringCase "Content-Encoding" := by
    decide +kernel
  rw [mediaType, mediaType, withoutCoding, NameTable.get?_erase_of_ne hother]

theorem withBody_withoutCoding (r : Request) (content : List UInt8) :
    r.withoutCoding.withBody content = (r.withBody content).withoutCoding := by
  rw [withBody, withBody, mediaType_withoutCoding]
  split
  · rfl
  · split
    · simp only [withoutCoding]
    · rfl

/-- An empty body adds nothing to a request that has no files and no fields. -/
theorem withBody_nil (huploads : r.uploads = []) (hfields : r.fields = .empty) :
    r.withBody [] = r := by
  unfold withBody
  split
  · have hread : Form.FormData.read [] = {} := rfl
    rw [hread, ← huploads, ← hfields]
  · split
    · have hpairs : Url.readPairs (Text.trim (Utf8.decode [])) = [] := by decide +kernel
      rw [Url.merge, hpairs]
      rfl
    · rfl

/-! ## Compressed bodies -/

/-- A compressed body that is within the limit is expanded, and then looked into. -/
theorem ToExpand.read_eq (hexpand : ToExpand r body settings.maxBodySize.toNat) :
    r.read body settings expander =
      (expandBody expander body settings.maxBodySize).map r.withBody := by
  have hidle : ¬ (r.method ≠ .post ∨ body.isEmpty) := by
    simp [hexpand.method, hexpand.nonempty]
  rw [read, if_neg (Nat.not_lt.mpr hexpand.length_le), if_neg hidle,
    if_pos (isCompressed_iff.mpr hexpand.compressed)]

/-- A body without a coding that is within the limit is looked into, also if it is empty. -/
theorem read_withoutCoding (hmethod : r.method = .post) (huploads : r.uploads = [])
    (hfields : r.fields = .empty) (hlength : content.length ≤ settings.maxBodySize.toNat) :
    r.withoutCoding.read content settings expander = .ok (r.withBody content).withoutCoding := by
  rw [read, if_neg (Nat.not_lt.mpr hlength)]
  split
  next hidle =>
    -- It is not looked into because it is empty, and then there would be nothing to add.
    obtain rfl : content = [] := by
      rw [← List.isEmpty_iff]
      exact hidle.resolve_left (not_not.mpr hmethod)
    rw [withBody_nil huploads hfields]
  next =>
    rw [if_neg (by rw [isCompressed_withoutCoding]; exact Bool.false_ne_true),
      withBody_withoutCoding]

/-- A compressed body is read like the bytes that the library makes come out of it. If they end
within the limit, the request becomes what it becomes without the coding and with these bytes for
its body, be there any or not. If there are more, it is refused as too large, whatever comes behind
them. If they break off within the limit, it is refused with the message. In each case what decides
are bytes taken one after the other, of which all beyond the first one over the limit are left. -/
theorem read_compressed (expander : Gzip.Expander) (block : String) {settings : Settings}
    (hlimit : settings.maxBodySize.toNat < UInt64.size - 1) {member : List UInt8}
    (hexpand : ToExpand (identify block) member settings.maxBodySize.toNat) :
    let r := identify block
    let limit := settings.maxBodySize.toNat
    let feed := expander.feed member
    (feed.broken = none → feed.bytes.length ≤ limit →
        ∃ after, r.read member settings expander = .ok after ∧
          r.withoutCoding.read feed.bytes settings expander = .ok after.withoutCoding) ∧
      (limit < feed.bytes.length →
        r.read member settings expander = .error (expandedTooLarge limit)) ∧
      (∀ message, feed.broken = some message → feed.bytes.length ≤ limit →
        r.read member settings expander = .error (notExpandable message)) ∧
      ∃ taken left, feed.take (limit + 1) = (taken, left) ∧
        left.bytes = feed.bytes.drop (limit + 1) ∧
        r.read member settings expander = (limited limit taken).map r.withBody := by
  intro r limit feed
  -- All parts are about the bytes that are taken, so they are cases of one equation.
  have hread : r.read member settings expander =
      (limited limit (feed.read (limit + 1))).map r.withBody := by
    rw [hexpand.read_eq, expandBody_eq hlimit]
  refine ⟨fun hends hlength => ?_, fun hmore => ?_, fun message hbroken hlength => ?_, ?_⟩
  · refine ⟨r.withBody feed.bytes, ?_, ?_⟩
    · rw [hread, limited_of_ends hends hlength]
      rfl
    · exact read_withoutCoding hexpand.method (uploads_identify block) (fields_identify block)
        hlength
  · rw [hread, limited_of_lt hmore]
    rfl
  · rw [hread, limited_of_breaks hbroken hlength]
    rfl
  · exact ⟨_, _, Feed.take_eq _ _, rfl, hread⟩

/-- A member of twenty-four bytes may expand to as many under a limit of as many, and then it is the
form in it that is read. One that expands to one byte more is too large, and that its trailer is
wrong does not come to light. -/
theorem read_compressed_at_limit :
    let block := Cgi.write [("REQUEST_METHOD", "POST"), ("REQUEST_URI", "/p?b=1"),
      ("CONTENT_TYPE", "application/x-www-form-urlencoded"), ("HTTP_CONTENT_ENCODING", "gzip")]
    let r := identify block
    let settings : Settings := { maxBodySize := 24 }
    let header : List UInt8 := [0x1F, 0x8B, 0x08, 0x00, 0x00, 0x00, 0x00, 0x00, 0x00, 0xFF]
    let within := header ++ [0x4B, 0xB4, 0xAD, 0xC0, 0x0A, 0x00, 0x41, 0x5E, 0xCD, 0x15, 0x18,
      0x00, 0x00, 0x00]
    let beyond := header ++ [0x4B, 0xB4, 0xAD, 0xC0, 0x0E, 0x00, 0xFF, 0xFF, 0xFF, 0xFF, 0x19,
      0x00, 0x00, 0x00]
    settings.maxBodySize.toNat < UInt64.size - 1 ∧
      ToExpand r within 24 ∧ ToExpand r beyond 24 ∧
      (∃ after, r.read within settings .ofMembers = .ok after ∧
        r.withoutCoding.read (Utf8.encode "a=xxxxxxxxxxxxxxxxxxxxxx") settings .ofMembers =
          .ok after.withoutCoding) ∧
      r.read beyond settings .ofMembers = .error (expandedTooLarge 24) := by
  intro block r settings header within beyond
  let vars := [("REQUEST_METHOD", "POST"), ("REQUEST_URI", "/p?b=1"),
    ("CONTENT_TYPE", "application/x-www-form-urlencoded"), ("HTTP_CONTENT_ENCODING", "gzip")]
  have hvalid : ∀ pair ∈ vars, Cgi.isVariableName pair.1 := by decide
  have hcompressed : r.SentCompressed := by
    have hheaders : (vars.map Cgi.kept).filterMap Cgi.header? =
        [("Content-Encoding", "gzip")] := by decide
    refine ⟨"gzip", ?_, by decide +kernel⟩
    rw [get?_headers_identify_write hvalid, hheaders]
    simp
  have hmethod : r.method = .post := method_identify_write hvalid (by decide) rfl
  have hlimit : settings.maxBodySize.toNat < UInt64.size - 1 := by decide
  have hwithin : ToExpand r within 24 := ⟨by decide, hmethod, by decide, hcompressed⟩
  have hbeyond : ToExpand r beyond 24 := ⟨by decide, hmethod, by decide, hcompressed⟩
  have hbytes : (Gzip.Expander.ofMembers.feed within).bytes =
      Utf8.encode "a=xxxxxxxxxxxxxxxxxxxxxx" := by
    decide +kernel
  have hends : (Gzip.Expander.ofMembers.feed within).broken = none := by decide +kernel
  have hmore : 24 < (Gzip.Expander.ofMembers.feed beyond).bytes.length := by decide +kernel
  have hread := (read_compressed .ofMembers block hlimit hwithin).1 hends
    (by rw [hbytes]; decide +kernel)
  have hlarge := (read_compressed .ofMembers block hlimit hbeyond).2.1 hmore
  rw [hbytes] at hread
  exact ⟨hlimit, hwithin, hbeyond, hread, hlarge⟩

end RelationGateway.Request
