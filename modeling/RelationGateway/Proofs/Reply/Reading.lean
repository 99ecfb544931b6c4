import RelationGateway.Proofs.Reply.Response
import RelationGateway.Proofs.Reply.Writing
import RelationGateway.Proofs.Text.Numeral

/-!
# Reading a response back

A response is cut into a head and a body at its first empty line, and the head into a status and
headers. What is read so of a draft that is sent is what its steps wrote, whatever the body looks
like.

* `read?`: the status, the headers and the body of a response;
* `read?_response`: they are those that it was written with;
* `Draft.sent`: the headers that are sent for the given ones;
* `Draft.finish_ofSteps`: which steps make a response, and what is read of it.
-/

namespace RelationGateway

namespace Response

/-- What is read of a response. -/
structure Reading where
  /-- The status code. -/
  status : Nat
  /-- The names and values of the headers, in order. -/
  headers : List (String × String)
  /-- The body. -/
  body : String
deriving DecidableEq, Repr

/-- The status code at the start of a text: what stands before its first space, or all of it. -/
def code? (title : String) : Option Nat :=
  Text.unsigned? 65535 (((Text.cut? " " title).map (·.1)).getD title)

/-- What is read of the lines of a head and a body: the first line has the name `Status`. -/
def readLines? (body : String) : List (String × String) → Option Reading
  | ("Status", title) :: headers => (code? title).map fun status => { status, headers, body }
  | _ => none

/-- A response is cut at its first empty line, its head at the line breaks, and each line at its
first colon with a space behind it. -/
def read? (output : String) : Option Reading := do
  let (head, body) ← Text.cut? "\r\n\r\n" output
  let lines ← (Text.segments "\r\n" head).mapM (Text.cut? ": ")
  readLines? body lines

/-- The line of a header is cut behind its name, whatever its value is. -/
theorem cut?_headerText {name value : String} (hname : ':' ∉ name.toList) :
    Text.cut? ": " (headerText (name, value)) = some (name, value) :=
  Text.cut?_of_not_mem rfl hname value

/-- The line of a header that can be sent is cut into its name and its value. -/
theorem Sendable.cut?_headerText {header : String × String} (h : Sendable header) :
    Text.cut? ": " (headerText header) = some header :=
  Response.cut?_headerText fun hc => absurd (h.token ':' hc) (by decide)

/-- The status code is read off the title that is written for it. -/
theorem code?_statusTitle (status : UInt16) :
    code? (Http.statusTitle status) = some status.toNat := by
  have hdigits : ' ' ∉ (toString status.toNat).toList := fun hc =>
    absurd (Text.isDigit_of_mem_toString hc) (by decide)
  have hread : Text.unsigned? 65535 (toString status.toNat) = some status.toNat :=
    Text.unsigned?_toString (Nat.le_of_lt_succ status.toNat_lt)
  unfold code? Http.statusTitle
  split
  next phrase hphrase =>
    rw [Http.statusText, Text.cut?_of_not_mem rfl hdigits phrase]
    exact hread
  next =>
    have hnone : Text.cut? " " (toString status.toNat) = none :=
      Text.cut?_eq_none_iff.mpr (Delimited.cut?_eq_none_of_not_mem hdigits [])
    rw [Http.statusText, hnone]
    exact hread

/-- The lines of headers that can be sent are cut into the headers. -/
theorem mapM_cut?_headerText {headers : List (String × String)}
    (h : ∀ header ∈ headers, Sendable header) :
    (headers.map headerText).mapM (Text.cut? ": ") = some headers := by
  induction headers with
  | nil => rfl
  | cons header rest ih =>
    obtain ⟨hheader, hrest⟩ := List.forall_mem_cons.mp h
    rw [List.map_cons, List.mapM_cons, hheader.cut?_headerText, ih hrest]
    rfl

/-- A response is read back as the status, the headers and the body that it was written with. -/
theorem read?_response (status : UInt16) {headers : NameTable .ignoringCase}
    (hheaders : Headers headers.toList) (body : String) :
    read? (Draft.response status headers body) =
      some { status := status.toNat, headers := headers.toList, body } := by
  have hcut : Text.cut? "\r\n\r\n" (Draft.response status headers body) =
      some (String.intercalate "\r\n" (Http.statusLine status :: headers.toList.map headerText),
        body) :=
    Text.cut?_eq_some_iff.mpr
      (Delimited.cut?_eq_some_iff.mpr ⟨by decide, firstCut_response status hheaders body⟩)
  have hsegments : Text.segments "\r\n"
      (String.intercalate "\r\n" (Http.statusLine status :: headers.toList.map headerText)) =
      Http.statusLine status :: headers.toList.map headerText := by
    rw [Text.segments_eq_iff, String.toList_intercalate]
    refine Delimited.segments_intercalate (by simp) ?_ _
    exact List.forall_mem_map.mpr fun line hline => (unbroken_lines status hheaders hline).1
  have hstatus : Text.cut? ": " (Http.statusLine status) =
      some ("Status", Http.statusTitle status) := @cut?_headerText "Status" _ (by decide)
  rw [read?, hcut]
  simp only [Option.bind_eq_bind, Option.bind_some, hsegments]
  rw [List.mapM_cons, hstatus, mapM_cut?_headerText hheaders.sendable]
  change (code? (Http.statusTitle status)).map _ = _
  rw [code?_statusTitle]
  rfl

end Response

namespace Draft

open Response

/-- The header, which closes the connection if it is about it. -/
def closed (header : String × String) : String × String :=
  if Text.sameIgnoringCase header.1 "Connection" then (header.1, "close") else header

/-- The headers that are sent for given ones. The connection is closed in its place, and behind the
given ones comes a content type if none is given, and then the connection if it is not given. -/
def sent (headers : List (String × String)) : List (String × String) :=
  headers.map closed ++
    (if headers.any (Text.sameIgnoringCase ·.1 "Content-Type") then []
      else [("Content-Type", "text/plain")]) ++
    if headers.any (Text.sameIgnoringCase ·.1 "Connection") then [] else [("Connection", "close")]

/-- The headers that a draft sends are those that are sent for the ones that it holds. -/
theorem toList_sentHeaders (d : Draft) : d.sentHeaders.toList = sent d.headers.toList := by
  have hcontains (name : String) : d.headers.contains name =
      d.headers.toList.any (Text.sameIgnoringCase ·.1 name) := NameTable.contains_eq
  -- A content type that is added is not taken for the connection.
  have hother : Text.sameIgnoringCase "Content-Type" "Connection" = false := by decide +kernel
  have hconnection : (d.headers.insertIfAbsent "Content-Type" "text/plain").contains "Connection" =
      d.headers.contains "Connection" := by
    rw [NameTable.contains_insertIfAbsent]
    exact (congrArg _ hother).trans (Bool.or_false _)
  have htyped : ((d.headers.insertIfAbsent "Content-Type" "text/plain").toList).map closed =
      d.headers.toList.map closed ++ if d.headers.contains "Content-Type" then []
        else [("Content-Type", "text/plain")] := by
    rw [NameTable.toList_insertIfAbsent]
    split
    · rw [List.append_nil]
    · rw [List.map_append, List.map_singleton, closed, if_neg (Bool.not_eq_true _ ▸ hother)]
  rw [sent, ← hcontains, ← hcontains, ← htyped, sentHeaders, NameTable.toList_insert, hconnection]
  split
  next => rw [List.append_nil]; rfl
  next hnone =>
    -- Without the connection no header is changed.
    have hsame : ∀ header ∈ (d.headers.insertIfAbsent "Content-Type" "text/plain").toList,
        closed header = header := by
      intro header hheader
      rw [← hconnection, NameTable.contains_eq, Bool.not_eq_true, List.any_eq_false] at hnone
      exact if_neg (hnone header hheader)
    rw [List.map_congr_left hsame, List.map_id']

/-- A draft makes a response exactly if all its headers can be sent. -/
theorem exists_finish_iff (d : Draft) (status : UInt16) :
    (∃ output, d.finish status = .ok output) ↔ ∀ header ∈ d.headers.toList, Sendable header := by
  rw [finish]
  simp only [← refusal?_eq_none_iff, ← List.findSome?_eq_none_iff]
  split
  next failure hfailure => simp [hfailure]
  next hnone => simp [hnone]

/-- The body that some steps give: their fragments one after the other, or without any fragment the
decimal code of the status. -/
def bodyOf (steps : List Step) (status : UInt16) : String :=
  match steps.filterMap Step.fragment? with
  | [] => toString status.toNat
  | fragments => String.join fragments

/-- The body that is sent is the one that the steps give. -/
theorem sentBody_ofSteps (steps : List Step) (status : UInt16) :
    (ofSteps steps).sentBody status = bodyOf steps status := by
  rw [sentBody, isEmpty, body, fragments_ofSteps, bodyOf]
  cases steps.filterMap Step.fragment? <;> rfl

/-- A draft that some steps write makes a response exactly if the headers that they give can all be
sent. Of the response the status is read back, the headers that are sent for the given ones, and
the body that the steps give. -/
theorem finish_ofSteps (steps : List Step) (status : UInt16) :
    ((∃ output, (ofSteps steps).finish status = .ok output) ↔
      ∀ header ∈ headersOf steps, Sendable header) ∧
    ∀ output, (ofSteps steps).finish status = .ok output →
      read? output = some
        { status := status.toNat
          headers := sent (headersOf steps)
          body := bodyOf steps status } := by
  refine ⟨?_, fun output houtput => ?_⟩
  · rw [exists_finish_iff, toList_headers_ofSteps]
  · unfold finish at houtput
    split at houtput
    next => cases houtput
    next hdraft =>
      cases houtput
      rw [read?_response status (headers_sentHeaders hdraft), toList_sentHeaders,
        toList_headers_ofSteps, sentBody_ofSteps]

/-- Steps that give a header in three spellings and the connection in small letters, and a body that
looks like a head. -/
def spelledSteps : List Step :=
  [.defaultHeader "x-part" "1", .setHeader "connection" "keep-alive", .append "a: b\r\n\r\n",
    .setHeader "X-Part" "2: 3", .setDebug .null, .defaultHeader "X-PART" "4", .appendJson .null]

/-- They make a response, and the headers and the body are read back. -/
theorem finish_ofSteps_spelledSteps :
    ∃ output, (ofSteps spelledSteps).finish 404 = .ok output ∧
      read? output = some
        { status := 404
          headers := [("x-part", "2: 3"), ("connection", "close"), ("Content-Type", "text/plain")]
          body := "a: b\r\n\r\nnull" } := by
  have hpart : Text.lower "X-Part" = Text.lower "x-part" ∧
      Text.lower "X-PART" = Text.lower "x-part" ∧ Text.lower "x-part" ≠ Text.lower "connection" ∧
      Text.lower "x-part" ≠ Text.lower "Connection" ∧
      Text.lower "x-part" ≠ Text.lower "Content-Type" := by
    simp only [Text.lower_eq_lower_iff, ne_eq]
    decide
  have hconnection : Text.lower "connection" = Text.lower "Connection" ∧
      Text.lower "Connection" ≠ Text.lower "Content-Type" := by
    simp only [Text.lower_eq_lower_iff, ne_eq]
    decide
  have hheaders : headersOf spelledSteps = [("x-part", "2: 3"), ("connection", "keep-alive")] := by
    simp [spelledSteps, headersOf, valueOf, NameTable.firsts, NameRule.key, Step.given?, Step.set?,
      Step.offer?, List.filterMap_cons, Text.sameIgnoringCase, hpart, hpart.2.2.2.1.symm,
      hconnection]
  have hsent : sent (headersOf spelledSteps) =
      [("x-part", "2: 3"), ("connection", "close"), ("Content-Type", "text/plain")] := by
    simp [hheaders, sent, closed, Text.sameIgnoringCase, hpart.2.2.2.1, hpart.2.2.2.2, hconnection]
  have hfragments : spelledSteps.filterMap Step.fragment? = ["a: b\r\n\r\n", "null"] := by
    decide +kernel
  have hbody : bodyOf spelledSteps 404 = "a: b\r\n\r\nnull" := by
    rw [bodyOf, hfragments]
    decide +kernel
  obtain ⟨hiff, hread⟩ := finish_ofSteps spelledSteps 404
  have hsendable : ∀ header ∈ headersOf spelledSteps, Sendable header := by
    rw [hheaders]
    refine List.forall_mem_cons.mpr ⟨?_, List.forall_mem_singleton.mpr ?_⟩ <;>
      exact sendable_of_all (by decide) (by decide) (by decide) (by decide)
  obtain ⟨output, houtput⟩ := hiff.mpr hsendable
  exact ⟨output, houtput, by rw [hread output houtput, hsent, hbody]; rfl⟩

end Draft
end RelationGateway
