import RelationGateway.Gateway.Basic
import RelationGateway.Feed
import RelationGateway.Proofs.Request.Identity
import RelationGateway.Proofs.Url.Form

/-!
# What reading a body changes

A body is read into the request that the environment tells of. Either it is refused, and the request
stays as it was, or what it holds is added and nothing else changes. The variables in the body of a
form continue those of the URL.

* `receive`, `run_receive`, `answer_eq_receive`: reading a body into a request step by step, as a
  gateway does;
* `limited`, `expandBody_eq`: what is made of the bytes that come out of a compressed body;
* `Refused`, `read_eq_error_iff_refused`: which bodies are refused;
* `Extends`, `receive_atomic`: what a body that is read changes;
* `SendsForm`, `read_continues_query`: the variables of a URL and those of a body.
-/

namespace RelationGateway.Request

variable {r : Request} {body content : List UInt8} {settings : Settings}
  {expander : Gzip.Expander}

/-! ## What a request says of its body -/

/-- The headers name the coding of gzip, in any letter case. -/
def SentCompressed (r : Request) : Prop :=
  ∃ coding, r.headers.get? "Content-Encoding" = some coding ∧ Text.lower coding = "gzip"

/-- The media type of the body begins with `kind` in any letter case. The type that the environment
gives counts before that of the headers. -/
def HasMediaType (r : Request) (kind : String) : Prop :=
  ∃ given, (r.environment.get? "CONTENT_TYPE" <|> r.headers.get? "Content-Type") = some given ∧
    kind.toList <+: (Text.lower given).toList

theorem isCompressed_iff : r.isCompressed ↔ r.SentCompressed := by
  have hgzip : Text.lower "gzip" = "gzip" := by decide +kernel
  have hempty : Text.lower "" ≠ "gzip" := by decide +kernel
  rw [isCompressed, Text.sameIgnoringCase, hgzip, beq_iff_eq, SentCompressed]
  cases r.headers.get? "Content-Encoding" with
  | none => simp [hempty]
  | some coding => simp

theorem startsWith_mediaType_iff {kind : String} (hkind : kind ≠ "") :
    startsWith kind r.mediaType ↔ r.HasMediaType kind := by
  rw [startsWith, List.isPrefixOf_iff_prefix, mediaType, HasMediaType]
  cases r.environment.get? "CONTENT_TYPE" <|> r.headers.get? "Content-Type" with
  | none =>
    -- No type at all is the empty text, and that begins with none.
    have hempty : Text.lower "" = "" := by decide +kernel
    simp [hempty, hkind]
  | some given => simp

/-! ## Reading step by step -/

/-- Adds variables to the request at hand, one after the other. -/
def receiveVariables (pairs : List (String × String)) : ExceptT Failure (StateM Request) Unit :=
  pairs.forM fun pair =>
    modify fun r => { r with query := r.query.insertIfAbsent pair.1 pair.2 }

/-- Adds what an expanded body holds to the request at hand. -/
def receiveContent (content : List UInt8) : ExceptT Failure (StateM Request) Unit := do
  let request ← get
  if startsWith "multipart/form-data" request.mediaType then
    let form := Form.FormData.read content
    modify fun r => { r with uploads := form.uploads }
    modify fun r => { r with fields := form.fields }
  else if startsWith "application/x-www-form-urlencoded" request.mediaType then
    receiveVariables (Url.readPairs (Text.trim (Utf8.decode content)))

/-- The steps in which a body is read into the request at hand. A failure breaks them off, and what
the steps before it changed stays changed. -/
def receive (body : List UInt8) (settings : Settings) (expander : Gzip.Expander) :
    ExceptT Failure (StateM Request) Unit := do
  if settings.maxBodySize.toNat < body.length then
    throw (bodyTooLarge body.length settings.maxBodySize.toNat)
  else
    let request ← get
    if request.method ≠ .post ∨ body.isEmpty then
      return
    else if request.isCompressed then
      let content ← MonadExcept.ofExcept (expandBody expander body settings.maxBodySize)
      receiveContent content
    else
      receiveContent body

theorem run_receiveVariables (pairs : List (String × String)) (r : Request) :
    (receiveVariables pairs).run.run r =
      (.ok (), { r with
        query := pairs.foldl (fun t pair => t.insertIfAbsent pair.1 pair.2) r.query }) := by
  -- The request changes with each variable, so the induction is over any request.
  induction pairs generalizing r with
  | nil => rfl
  | cons pair rest ih => exact ih { r with query := r.query.insertIfAbsent pair.1 pair.2 }

/-- What is asked of the request at hand is asked of the one that a run begins with. -/
theorem run_get_bind {α : Type} (next : Request → ExceptT Failure (StateM Request) α)
    (r : Request) : (get >>= next).run.run r = (next r).run.run r := rfl

theorem run_receiveContent (content : List UInt8) (r : Request) :
    (receiveContent content).run.run r = (.ok (), r.withBody content) := by
  rw [receiveContent, run_get_bind, withBody]
  by_cases hparts : startsWith "multipart/form-data" r.mediaType
  · rw [if_pos hparts, if_pos hparts]
    rfl
  · rw [if_neg hparts, if_neg hparts]
    by_cases hform : startsWith "application/x-www-form-urlencoded" r.mediaType
    · rw [if_pos hform, if_pos hform]
      exact run_receiveVariables _ r
    · rw [if_neg hform, if_neg hform]
      rfl

/-- Read step by step, a body changes the request as it does read at once, and a failure leaves the
request as it was. -/
theorem run_receive (r : Request) (body : List UInt8) (settings : Settings)
    (expander : Gzip.Expander) :
    (receive body settings expander).run.run r =
      match r.read body settings expander with
      | .ok after => (.ok (), after)
      | .error failure => (.error failure, r) := by
  rw [receive, read]
  -- Both ask the same questions in the same order, so the cases are those of `read`.
  by_cases hsize : settings.maxBodySize.toNat < body.length
  · rw [if_pos hsize, if_pos hsize]
    rfl
  rw [if_neg hsize, if_neg hsize, run_get_bind]
  by_cases hidle : r.method ≠ .post ∨ body.isEmpty
  · rw [if_pos hidle, if_pos hidle]
    rfl
  rw [if_neg hidle, if_neg hidle]
  by_cases hcompressed : r.isCompressed
  · rw [if_pos hcompressed, if_pos hcompressed]
    cases expandBody expander body settings.maxBodySize with
    | error failure => rfl
    | ok content => exact run_receiveContent content r
  · rw [if_neg hcompressed, if_neg hcompressed]
    exact run_receiveContent body r

/-- A gateway answers as if it read the body into the request at hand: whatever becomes of the body,
it goes on with the request that is left. -/
theorem answer_eq_receive {m : Type → Type} [Monad m] (g : Gateway m) (host : Host m)
    (environment : String) (input : List UInt8) :
    g.answer host environment input = (do
      let (entry, started) ← Gateway.arrive host environment input
      let identity := identify environment
      let (outcome, request) := (receive input g.settings g.expander).run.run identity
      let verdict ← g.judge identity (outcome.map fun _ => request)
      g.conclude host entry started request verdict) := by
  simp only [Gateway.answer, run_receive]
  cases (identify environment).read input g.settings g.expander <;> rfl

/-! ## Bodies that are refused -/

/-- The body of a sent form is to be expanded under a limit. -/
structure ToExpand (r : Request) (body : List UInt8) (limit : Nat) : Prop where
  /-- As it was sent it is within the limit. -/
  length_le : body.length ≤ limit
  /-- The request sends a form. -/
  method : r.method = .post
  /-- There is a body. -/
  nonempty : body ≠ []
  /-- It is compressed. -/
  compressed : r.SentCompressed

/-- Why the body of a request is refused under a limit. -/
inductive Refused (expander : Gzip.Expander) (r : Request) (body : List UInt8) (limit : Nat) :
    Failure → Prop where
  /-- The body is over the limit, whatever the method is. -/
  | tooLarge (hsize : limit < body.length) :
      Refused expander r body limit (bodyTooLarge body.length limit)
  /-- What comes out of a compressed body breaks off within the limit. -/
  | notExpandable (hexpand : ToExpand r body limit) {message : String}
      (hbroken : (expander.feed body).broken = some message)
      (hlength : (expander.feed body).bytes.length ≤ limit) :
      Refused expander r body limit (notExpandable message)
  /-- More bytes come out of a compressed body than the limit. -/
  | expandedTooLarge (hexpand : ToExpand r body limit)
      (hlength : limit < (expander.feed body).bytes.length) :
      Refused expander r body limit (expandedTooLarge limit)

/-- Reading fails where a body is too large, or where expanding it does. -/
theorem read_eq_error_iff {failure : Failure} :
    r.read body settings expander = .error failure ↔
      (settings.maxBodySize.toNat < body.length ∧
          failure = bodyTooLarge body.length settings.maxBodySize.toNat) ∨
        (ToExpand r body settings.maxBodySize.toNat ∧
          expandBody expander body settings.maxBodySize = .error failure) := by
  rw [read]
  by_cases hsize : settings.maxBodySize.toNat < body.length
  · -- A body that is too large is not expanded, so the second reason does not come about.
    have hnot : ¬ ToExpand r body settings.maxBodySize.toNat := fun hexpand =>
      Nat.not_le.mpr hsize hexpand.length_le
    rw [if_pos hsize, Except.error.injEq]
    simp only [hsize, hnot, true_and, false_and, or_false]
    exact eq_comm
  rw [if_neg hsize]
  by_cases hidle : r.method ≠ .post ∨ body.isEmpty
  · have hnot : ¬ ToExpand r body settings.maxBodySize.toNat := by
      rintro ⟨-, hmethod, hnonempty, -⟩
      exact hidle.elim (· hmethod) fun hempty => hnonempty (List.isEmpty_iff.mp hempty)
    simp only [if_pos hidle, hsize, hnot, false_and, or_false, reduceCtorEq]
  rw [if_neg hidle]
  by_cases hcompressed : r.isCompressed
  · have hexpand : ToExpand r body settings.maxBodySize.toNat := by
      simp only [ne_eq, List.isEmpty_iff, not_or, not_not] at hidle
      exact ⟨Nat.not_lt.mp hsize, hidle.1, hidle.2, isCompressed_iff.mp hcompressed⟩
    simp only [if_pos hcompressed, hsize, hexpand, true_and, false_and, false_or]
    cases expandBody expander body settings.maxBodySize <;> simp [Except.map]
  · have hnot : ¬ ToExpand r body settings.maxBodySize.toNat := fun hexpand =>
      hcompressed (isCompressed_iff.mpr hexpand.compressed)
    simp only [if_neg hcompressed, hsize, hnot, false_and, or_false, reduceCtorEq]

/-! ## Bytes under a limit -/

/-- What is made of the bytes that are taken out of a compressed body. -/
def limited (limit : Nat) : Except String (List UInt8) → Except Failure (List UInt8)
  | .error message => .error (notExpandable message)
  | .ok content => if limit < content.length then .error (expandedTooLarge limit) else .ok content

/-- A compressed body is expanded by taking bytes out of it, one more than the limit if there are as
many. -/
theorem expandBody_eq {limit : UInt64} (hlimit : limit.toNat < UInt64.size - 1)
    (member : List UInt8) :
    expandBody expander member limit =
      limited limit.toNat ((expander.feed member).read (limit.toNat + 1)) := by
  rw [expandBody, Feed.toNat_add_one hlimit, expander.read_eq]
  cases (expander.feed member).read (limit.toNat + 1) <;> rfl

/-- A body that expands to bytes within the limit and ends there stands for these bytes. -/
theorem limited_of_ends {limit : Nat} {feed : Feed String} (hends : feed.broken = none)
    (hlength : feed.bytes.length ≤ limit) :
    limited limit (feed.read (limit + 1)) = .ok feed.bytes := by
  rw [Feed.read_of_ends hends, List.take_of_length_le (Nat.le_succ_of_le hlength), limited,
    if_neg (Nat.not_lt.mpr hlength)]

/-- A body that expands to more bytes than the limit is refused, whatever comes behind them. -/
theorem limited_of_lt {limit : Nat} {feed : Feed String} (h : limit < feed.bytes.length) :
    limited limit (feed.read (limit + 1)) = .error (expandedTooLarge limit) := by
  have hlength : (feed.bytes.take (limit + 1)).length = limit + 1 := List.length_take_of_le h
  rw [Feed.read_of_le h, limited, if_pos (by rw [hlength]; exact Nat.lt_succ_self limit)]

/-- A body that breaks off within the limit is refused with the message. -/
theorem limited_of_breaks {limit : Nat} {feed : Feed String} {message : String}
    (hbroken : feed.broken = some message) (hlength : feed.bytes.length ≤ limit) :
    limited limit (feed.read (limit + 1)) = .error (notExpandable message) := by
  rw [Feed.read_of_breaks hbroken (Nat.lt_succ_of_le hlength), limited]

/-- Below the greatest word, expanding fails where the bytes that come out break off within the
limit, or where there are more. -/
theorem expandBody_eq_error_iff {limit : UInt64} (hlimit : limit.toNat < UInt64.size - 1)
    {failure : Failure} :
    expandBody expander body limit = .error failure ↔
      (∃ message, (expander.feed body).broken = some message ∧
          (expander.feed body).bytes.length ≤ limit.toNat ∧ failure = notExpandable message) ∨
        limit.toNat < (expander.feed body).bytes.length ∧
          failure = expandedTooLarge limit.toNat := by
  rw [expandBody_eq hlimit]
  rcases Nat.lt_or_ge limit.toNat (expander.feed body).bytes.length with hmany | hfew
  · simp [limited_of_lt hmany, hmany, Nat.not_le.mpr hmany, eq_comm]
  · cases hbroken : (expander.feed body).broken with
    | some message => simp [limited_of_breaks hbroken hfew, hfew, Nat.not_lt.mpr hfew, eq_comm]
    | none => simp [limited_of_ends hbroken hfew, Nat.not_lt.mpr hfew]

/-- A body is refused exactly for one of the reasons. -/
theorem read_eq_error_iff_refused (hlimit : settings.maxBodySize.toNat < UInt64.size - 1)
    {failure : Failure} :
    r.read body settings expander = .error failure ↔
      Refused expander r body settings.maxBodySize.toNat failure := by
  rw [read_eq_error_iff, expandBody_eq_error_iff hlimit]
  constructor
  · rintro (⟨hsize, rfl⟩ | ⟨hexpand, ⟨message, hbroken, hlength, rfl⟩ | ⟨hlength, rfl⟩⟩)
    · exact .tooLarge hsize
    · exact .notExpandable hexpand hbroken hlength
    · exact .expandedTooLarge hexpand hlength
  · intro hrefused
    cases hrefused with
    | tooLarge hsize => exact .inl ⟨hsize, rfl⟩
    | notExpandable hexpand hbroken hlength =>
      exact .inr ⟨hexpand, .inl ⟨_, hbroken, hlength, rfl⟩⟩
    | expandedTooLarge hexpand hlength => exact .inr ⟨hexpand, .inr ⟨hlength, rfl⟩⟩

/-! ## Bodies that are read -/

/-- The second request is the first with more that was read from its body. -/
structure Extends (r after : Request) : Prop where
  /-- Only query variables, fields and files may differ. -/
  eq_update : after =
    { r with query := after.query, fields := after.fields, uploads := after.uploads }
  /-- The query variables stay where they are, with their values; new ones come behind them. -/
  query_begins : r.query.toList <+: after.query.toList

theorem extends_refl (r : Request) : r.Extends r := ⟨rfl, List.prefix_rfl⟩

theorem extends_query {query : NameTable .exact} (hbegins : r.query.toList <+: query.toList) :
    r.Extends { r with query } := ⟨rfl, hbegins⟩

theorem extends_withBody (r : Request) (content : List UInt8) :
    r.Extends (r.withBody content) := by
  unfold withBody
  split
  · -- Files and fields take the place of those before, and the variables stay.
    exact ⟨rfl, List.prefix_rfl⟩
  · split
    · refine extends_query ?_
      rw [Url.merge, NameTable.toList_foldl_insertIfAbsent]
      exact List.prefix_append _ _
    · exact extends_refl r

/-- A body of another type than that of a form is not looked into. -/
theorem withBody_eq_self (hparts : ¬ r.HasMediaType "multipart/form-data")
    (hform : ¬ r.HasMediaType "application/x-www-form-urlencoded") (content : List UInt8) :
    r.withBody content = r := by
  rw [← startsWith_mediaType_iff (by decide)] at hparts hform
  rw [withBody, if_neg hparts, if_neg hform]

/-- A body that is read adds what it expands to, unless there is nothing to look into. -/
theorem eq_of_read_eq_ok {after : Request} (h : r.read body settings expander = .ok after) :
    after = r ∨ (r.method = .post ∧ body ≠ []) ∧ ∃ content, after = r.withBody content := by
  rw [read] at h
  split at h
  · cases h
  split at h
  next => exact .inl (Except.ok.inj h).symm
  next hidle =>
    simp only [ne_eq, List.isEmpty_iff, not_or, not_not] at hidle
    refine .inr ⟨hidle, ?_⟩
    split at h
    · cases hexpand : expandBody expander body settings.maxBodySize with
      | error failure =>
        rw [hexpand] at h
        cases h
      | ok content =>
        rw [hexpand] at h
        exact ⟨content, (Except.ok.inj h).symm⟩
    · exact ⟨body, (Except.ok.inj h).symm⟩

/-- Reading a body step by step is all or nothing, whatever library expands it. It breaks off
exactly where the body is refused: over the limit as it was sent, or breaking off before the limit
is passed when expanded, or over the limit when expanded. Then the request at hand stays as it was.
Else it keeps all that the environment told of it, and its query variables stay in front of those of
the body. A request that sends no form, has no body, or has one of another type than a form, stays
as it was in any case. -/
theorem receive_atomic (expander : Gzip.Expander) (r : Request) (body : List UInt8)
    {settings : Settings} (hlimit : settings.maxBodySize.toNat < UInt64.size - 1) :
    ∃ outcome after, (receive body settings expander).run.run r = (outcome, after) ∧
      r.read body settings expander = outcome.map (fun _ => after) ∧
      (∀ failure, outcome = .error failure ↔
        Refused expander r body settings.maxBodySize.toNat failure) ∧
      (∀ failure, outcome = .error failure → after = r) ∧
      r.Extends after ∧
      (r.method ≠ .post ∨ body = [] ∨
          ¬ r.HasMediaType "multipart/form-data" ∧
            ¬ r.HasMediaType "application/x-www-form-urlencoded" → after = r) := by
  have hrun := run_receive r body settings expander
  cases hread : r.read body settings expander with
  | error failure =>
    rw [hread] at hrun
    refine ⟨.error failure, r, hrun, rfl, fun other => ?_, fun _ _ => rfl, extends_refl r,
      fun _ => rfl⟩
    rw [← read_eq_error_iff_refused hlimit, hread, Except.error.injEq, Except.error.injEq]
  | ok after =>
    rw [hread] at hrun
    refine ⟨.ok (), after, hrun, rfl, fun failure => ?_, nofun, ?_, fun hsame => ?_⟩
    · rw [← read_eq_error_iff_refused hlimit, hread]
      exact iff_of_false nofun nofun
    · rcases eq_of_read_eq_ok hread with rfl | ⟨-, content, rfl⟩
      · exact extends_refl after
      · exact extends_withBody r content
    · rcases eq_of_read_eq_ok hread with rfl | ⟨⟨hmethod, hnonempty⟩, content, rfl⟩
      · rfl
      · rcases hsame with hother | hempty | ⟨hparts, hform⟩
        · exact absurd hmethod hother
        · exact absurd hempty hnonempty
        · exact withBody_eq_self hparts hform content

/-- A body that breaks off in its header leaves the request with what the environment told. -/
theorem receive_atomic_truncated :
    let r := identify (Cgi.write [("REQUEST_METHOD", "POST"), ("REQUEST_URI", "/p?a=1"),
      ("HTTP_CONTENT_ENCODING", "GZip")])
    ({} : Settings).maxBodySize.toNat < UInt64.size - 1 ∧
      (receive [0x1F, 0x8B] {} .ofMembers).run.run r =
        (.error (notExpandable "unexpected end of file"), r) := by
  intro r
  let vars := [("REQUEST_METHOD", "POST"), ("REQUEST_URI", "/p?a=1"),
    ("HTTP_CONTENT_ENCODING", "GZip")]
  have hvalid : ∀ pair ∈ vars, Cgi.isVariableName pair.1 := by decide
  have hheaders : (vars.map Cgi.kept).filterMap Cgi.header? = [("Content-Encoding", "GZip")] := by
    decide
  have hlimit : ({} : Settings).maxBodySize.toNat < UInt64.size - 1 := by decide
  obtain ⟨outcome, after, hrun, -, hrefused, hkept, -, -⟩ :=
    receive_atomic .ofMembers r [0x1F, 0x8B] hlimit
  have hcompressed : r.SentCompressed := by
    refine ⟨"GZip", ?_, ?_⟩
    · rw [get?_headers_identify_write hvalid, hheaders]
      simp
    · rw [← String.toList_inj, Text.lower, String.toList_map]
      decide
  have hexpand : ToExpand r [0x1F, 0x8B] ({} : Settings).maxBodySize.toNat :=
    ⟨by decide, method_identify_write hvalid (by decide) rfl, by decide, hcompressed⟩
  have hbroken : (Gzip.Expander.ofMembers.feed [0x1F, 0x8B]).broken =
      some "unexpected end of file" := rfl
  have hfailed := (hrefused _).mpr (.notExpandable hexpand hbroken (Nat.zero_le _))
  refine ⟨hlimit, ?_⟩
  rw [hrun, hkept _ hfailed, hfailed]

/-! ## Sent forms -/

/-- The bytes that a body stands for: its own, or those it expands to if it is compressed. -/
inductive Holds (r : Request) (settings : Settings) (expander : Gzip.Expander) :
    List UInt8 → List UInt8 → Prop where
  /-- There is no body. -/
  | empty : Holds r settings expander [] []
  /-- The body is not compressed. -/
  | plain (hplain : ¬ r.SentCompressed) {body : List UInt8} : Holds r settings expander body body
  /-- There is a body, and it is compressed. -/
  | expanded (hcompressed : r.SentCompressed) {body content : List UInt8} (hnonempty : body ≠ [])
      (hexpand : expandBody expander body settings.maxBodySize = .ok content) :
      Holds r settings expander body content

/-- The request sends variables in a body that is accepted. -/
structure SendsForm (r : Request) (settings : Settings) (expander : Gzip.Expander)
    (body content : List UInt8) : Prop where
  /-- The request sends a form. -/
  method : r.method = .post
  /-- The form is one of variables. -/
  mediaType : r.HasMediaType "application/x-www-form-urlencoded"
  /-- The body is within the limit. -/
  length_le : body.length ≤ settings.maxBodySize.toNat
  /-- The body stands for `content`. -/
  holds : Holds r settings expander body content

/-- The content of a form of variables is merged into the query variables. -/
theorem withBody_form (htype : r.HasMediaType "application/x-www-form-urlencoded")
    (content : List UInt8) :
    r.withBody content =
      { r with query := Url.merge r.query (Text.trim (Utf8.decode content)) } := by
  have hparts : ¬ startsWith "multipart/form-data" r.mediaType := by
    -- The longer of two beginnings of a text would begin with the shorter one.
    rw [startsWith_mediaType_iff (by decide)]
    rintro ⟨other, hother, hbegins⟩
    obtain ⟨given, hgiven, hform⟩ := htype
    obtain rfl := Option.some.inj (hother.symm.trans hgiven)
    have hboth := List.prefix_of_prefix_length_le hbegins hform (by decide)
    exact absurd hboth (by decide)
  rw [withBody, if_neg hparts, if_pos ((startsWith_mediaType_iff (by decide)).mpr htype)]

/-- A form of variables is accepted, and they are merged into the query variables. -/
theorem SendsForm.read_eq (hsends : r.SendsForm settings expander body content) :
    r.read body settings expander =
      .ok { r with query := Url.merge r.query (Text.trim (Utf8.decode content)) } := by
  obtain ⟨hmethod, htype, hsize, hholds⟩ := hsends
  have hwith := withBody_form htype content
  rw [← hwith, read, if_neg (Nat.not_lt.mpr hsize)]
  by_cases hempty : body = []
  · -- Without a body nothing is merged.
    subst hempty
    have hcontent : content = [] := by
      cases hholds with
      | empty | plain => rfl
      | expanded _ hnonempty => exact absurd rfl hnonempty
    have hnone : Url.merge r.query (Text.trim (Utf8.decode [])) = r.query := rfl
    rw [if_pos (.inr rfl), hwith, hcontent, hnone]
  · have hidle : ¬ (r.method ≠ .post ∨ body.isEmpty) := by
      simp [hmethod, hempty]
    rw [if_neg hidle]
    cases hholds with
    | empty => exact absurd rfl hempty
    | plain hplain => rw [if_neg (mt isCompressed_iff.mp hplain)]
    | expanded hcompressed _ hexpand =>
      rw [if_pos (isCompressed_iff.mpr hcompressed), hexpand]
      rfl

/-- The variables in the body of a form continue those of the URL. They are read as if what the body
stands for, as a text without the blanks around it, stood behind the query string, with an ampersand
between; however malformed either is, the table gets the same variables in the same order. So a name
has its first value in the URL, and without one there its first in the body. The same holds of any
two query strings that are added to any table. -/
theorem read_continues_query :
    (∀ (table : NameTable .exact) (front back : String),
        Url.merge (Url.merge table front) back = Url.merge table (front ++ "&" ++ back)) ∧
      (∀ block, (identify block).query = Url.readForm (identify block).queryString) ∧
      ∀ (r : Request) (queryString : String) (settings : Settings) (expander : Gzip.Expander)
        (body content : List UInt8),
        r.query = Url.readForm queryString → r.SendsForm settings expander body content →
        ∃ request, r.read body settings expander = .ok request ∧
          request.query =
            Url.readForm (queryString ++ "&" ++ Text.trim (Utf8.decode content)) ∧
          ∀ name, request.query.get? name =
            ((Url.readPairs queryString).lookup name).or
              ((Url.readPairs (Text.trim (Utf8.decode content))).lookup name) := by
  refine ⟨fun table front back => (Url.merge_append table front back).symm, fun block => ?_, ?_⟩
  · rw [query_identify, queryString_identify]
  · intro r queryString settings expander body content hquery hsends
    have hread := hsends.read_eq
    generalize Text.trim (Utf8.decode content) = text at *
    rw [hquery, ← Url.readForm_append] at hread
    have hget := Url.get?_readForm_append queryString text
    -- Nothing else matters of the table.
    generalize Url.readForm (queryString ++ "&" ++ text) = table at *
    exact ⟨_, hread, rfl, hget⟩

/-- Empty pieces, broken escapes and bytes that stand for no text may be in both, and one name may
be written in several ways. -/
theorem read_continues_query_malformed :
    let block := Cgi.write [("REQUEST_METHOD", "POST"), ("REQUEST_URI", "/p?a=1&&%61=2&c"),
      ("CONTENT_TYPE", "Application/X-WWW-Form-URLEncoded; charset=utf-8")]
    let body := Utf8.encode " b=%ZZ&a=3&" ++ [0xFF] ++ Utf8.encode "=+&c=4\n"
    (identify block).SendsForm {} .ofMembers body body ∧
      ∃ request, (identify block).read body {} .ofMembers = .ok request ∧
        request.query.toList = [("a", "1"), ("c", ""), ("b", "%ZZ"), ("\uFFFD", " ")] ∧
        request.query.get? "a" = some "1" := by
  intro block body
  let vars := [("REQUEST_METHOD", "POST"), ("REQUEST_URI", "/p?a=1&&%61=2&c"),
    ("CONTENT_TYPE", "Application/X-WWW-Form-URLEncoded; charset=utf-8")]
  have hvalid : ∀ pair ∈ vars, Cgi.isVariableName pair.1 := by decide
  have hplain : ¬ (identify block).SentCompressed := by
    have hnone : (identify block).headers.get? "Content-Encoding" = none := by
      have hheaders : (vars.map Cgi.kept).filterMap Cgi.header? = [] := by decide
      rw [get?_headers_identify_write hvalid, hheaders]
      rfl
    rintro ⟨coding, hcoding, -⟩
    cases hnone.symm.trans hcoding
  have htype : (identify block).HasMediaType "application/x-www-form-urlencoded" := by
    refine ⟨"Application/X-WWW-Form-URLEncoded; charset=utf-8", ?_, ?_⟩
    · rw [environment_identify, get?_ofList_read_write hvalid]
      rfl
    · rw [Text.lower, String.toList_map]
      decide
  have hsends : (identify block).SendsForm {} .ofMembers body body :=
    ⟨method_identify_write hvalid (by decide) rfl, htype, by decide +kernel, .plain hplain⟩
  have hstring : (identify block).queryString = "a=1&&%61=2&c" := by
    rw [queryString_identify, url_identify_write hvalid rfl (by decide) (by decide) (by decide)]
    decide +kernel
  have hurl := read_continues_query.2.1 block
  obtain ⟨request, hread, hquery, hget⟩ :=
    read_continues_query.2.2 (identify block) _ {} .ofMembers body body hurl hsends
  rw [hstring] at hquery hget
  refine ⟨hsends, request, hread, ?_, ?_⟩
  · rw [hquery]
    decide +kernel
  · rw [hget]
    decide +kernel

end RelationGateway.Request
