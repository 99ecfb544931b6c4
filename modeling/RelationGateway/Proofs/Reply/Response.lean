import Mathlib.Data.Bool.AllAny
import RelationGateway.Proofs.Delimited
import RelationGateway.Proofs.NameTable
import RelationGateway.Proofs.Text.Basic
import RelationGateway.Reply.Page

/-!
# Well-formed responses

A response is a head of lines, an empty line and a body. This file says what a well-formed
response is, without the writer, and shows that drafts and error pages make only such.

* `IsTokenChar`, `Sendable`, `Headers`: what may stand in a head;
* `WellFormed`: the text is a response with a status;
* `wellFormed_of_finish`, `wellFormed_page`: what is sent is well formed;
* `firstCut_page`: the head of an error page.
-/

namespace RelationGateway.Response

/-- The character may stand in a token of RFC 7230: it is visible and no delimiter. -/
def IsTokenChar (c : Char) : Prop :=
  33 ≤ c.toNat ∧ c.toNat ≤ 126 ∧
    c ∉ ['"', '(', ')', ',', '/', ':', ';', '<', '=', '>', '?', '@', '[', '\\', ']', '\x7b', '\x7d']

instance : DecidablePred IsTokenChar := fun c => by
  unfold IsTokenChar
  infer_instance

/-- The header, a name and a value, can be sent. -/
structure Sendable (header : String × String) : Prop where
  /-- It has a name. -/
  name_ne : header.1 ≠ ""
  /-- The name is a token. -/
  token : ∀ c ∈ header.1.toList, IsTokenChar c
  /-- The value holds only tabs, spaces and visible characters. -/
  value : ∀ c ∈ header.2.toList, c = '\t' ∨ 32 ≤ c.toNat ∧ c.toNat ≤ 126
  /-- It is not the status. -/
  ne_status : ¬ Text.sameIgnoringCase header.1 "Status"

/-- The headers with a name, in whatever letters. -/
def named (name : String) (headers : List (String × String)) : List (String × String) :=
  headers.filter fun header => Text.sameIgnoringCase header.1 name

/-- The headers, names and values, are those of a response. -/
structure Headers (headers : List (String × String)) : Prop where
  /-- Each can be sent. -/
  sendable : ∀ header ∈ headers, Sendable header
  /-- No name comes twice, in whatever letters. -/
  nodup : (headers.map fun header => Text.lower header.1).Nodup
  /-- One header closes the connection. -/
  connection : (named "Connection" headers).map (·.2) = ["close"]
  /-- One header gives the content type. -/
  contentType : (named "Content-Type" headers).length = 1

/-- The text is the first line of a response with a status: its decimal code, and perhaps the
reason phrase. -/
inductive StatusLine (status : UInt16) : String → Prop
  | bare : StatusLine status ("Status: " ++ toString status.toNat)
  | reason {phrase : String} (hphrase : Http.reason? status = some phrase) :
      StatusLine status ("Status: " ++ (toString status.toNat ++ " " ++ phrase))

/-- A header as a line. -/
def headerText (header : String × String) : String := header.1 ++ ": " ++ header.2

/-- The lines of a head: the status line and one line for each header. -/
structure Head (status : UInt16) (lines : List String) : Prop where
  /-- The first line and the others. -/
  exists_eq : ∃ first headers, lines = first :: headers.map headerText ∧
    StatusLine status first ∧ Headers headers
  /-- No line is broken. -/
  unbroken : ∀ line ∈ lines, '\r' ∉ line.toList ∧ '\n' ∉ line.toList

/-- The text is a response with a status: before its first empty line stands a head. -/
def WellFormed (status : UInt16) (output : String) : Prop :=
  ∃ (lines : List String) (body : List Char), Head status lines ∧
    Delimited.FirstCut "\r\n\r\n".toList output.toList
      (String.intercalate "\r\n" lines).toList body

/-! ## Names and values -/

/-- What is taken for a character of a token is one. -/
theorem isTokenChar_of_http {c : Char} (h : Http.isTokenChar c) : IsTokenChar c := by
  -- Only ASCII characters are taken, and those can be looked at one by one.
  have hascii : c.toNat < 127 := by
    rcases Bool.or_eq_true_iff.mp h with h | h
    · exact Text.toNat_lt_of_isAlphanum h
    · have hall : ∀ c ∈ "!#$%&'*+-.^_\x60|~".toList, c.toNat < 127 :=
        List.all_iff_forall_prop.mp (by decide)
      exact hall c (List.contains_iff_mem.mp h)
  have hall : ∀ c : Char, c.toNat < 127 → Http.isTokenChar c → IsTokenChar c :=
    Text.forall_toNat_lt (by decide)
  exact hall c hascii h

/-- A character of a token is taken for one. -/
theorem isTokenChar_http {c : Char} (h : IsTokenChar c) : Http.isTokenChar c := by
  have hall : ∀ c : Char, c.toNat < 127 → IsTokenChar c → Http.isTokenChar c :=
    Text.forall_toNat_lt (by decide)
  exact hall c (Nat.lt_succ_of_le h.2.1) h

/-- What is taken for a character of a value is a tab, a space or visible. -/
theorem value_of_isValueChar {c : Char} (h : Http.isValueChar c) :
    c = '\t' ∨ 32 ≤ c.toNat ∧ c.toNat ≤ 126 := by
  rcases Bool.or_eq_true_iff.mp h with h | h
  · exact .inl (beq_iff_eq.mp h)
  · obtain ⟨hlow, hhigh⟩ := Bool.and_eq_true_iff.mp h
    exact .inr ⟨of_decide_eq_true hlow, of_decide_eq_true hhigh⟩

/-- A tab, a space and a visible character are taken for characters of a value. -/
theorem isValueChar_http {c : Char} (h : c = '\t' ∨ 32 ≤ c.toNat ∧ c.toNat ≤ 126) :
    Http.isValueChar c := by
  rcases h with rfl | ⟨hlow, hhigh⟩
  · rfl
  · exact Bool.or_eq_true_iff.mpr
      (.inr (Bool.and_eq_true_iff.mpr ⟨decide_eq_true hlow, decide_eq_true hhigh⟩))

/-- A header that is not refused can be sent. -/
theorem sendable_of_refusal? {header : String × String} (h : Draft.refusal? header = none) :
    Sendable header := by
  unfold Draft.refusal? at h
  split at h
  next => cases h
  next hstatus =>
    split_ifs at h with hheader
    obtain ⟨hname, hvalue⟩ := Bool.and_eq_true_iff.mp hheader
    obtain ⟨hne, htoken⟩ := Bool.and_eq_true_iff.mp hname
    refine ⟨?_, ?_, ?_, ?_⟩
    · rintro hempty
      rw [hempty] at hne
      exact absurd hne (by decide)
    · exact fun c hc => isTokenChar_of_http (List.all_eq_true.mp htoken c hc)
    · exact fun c hc => value_of_isValueChar (List.all_eq_true.mp hvalue c hc)
    · exact hstatus

/-- The headers that are not refused are those that can be sent. -/
theorem refusal?_eq_none_iff {header : String × String} :
    Draft.refusal? header = none ↔ Sendable header := by
  refine ⟨sendable_of_refusal?, fun h => ?_⟩
  have hname : Http.isHeaderName header.1 :=
    Bool.and_eq_true_iff.mpr ⟨by simpa using h.name_ne,
      List.all_eq_true.mpr fun c hc => isTokenChar_http (h.token c hc)⟩
  have hvalue : Http.isHeaderValue header.2 :=
    List.all_eq_true.mpr fun c hc => isValueChar_http (h.value c hc)
  rw [Draft.refusal?, if_neg h.ne_status, if_pos (Bool.and_eq_true_iff.mpr ⟨hname, hvalue⟩)]

/-- A header that is given can be sent if its characters are allowed, one by one. -/
theorem sendable_of_all {name value : String} (hne : name ≠ "")
    (htoken : name.toList.all fun c => IsTokenChar c)
    (hvalue : value.toList.all fun c => c = '\t' ∨ 32 ≤ c.toNat ∧ c.toNat ≤ 126)
    (hstatus : name.toList.map Char.toLower ≠ "Status".toList.map Char.toLower) :
    Sendable (name, value) :=
  ⟨hne, List.all_iff_forall_prop.mp htoken, List.all_iff_forall_prop.mp hvalue,
    mt Text.sameIgnoringCase_iff.mp hstatus⟩

/-- The line of a header that can be sent is not broken. -/
theorem Sendable.unbroken {header : String × String} (h : Sendable header) :
    Text.Unbroken (headerText header) := by
  have htoken : ¬ IsTokenChar '\r' ∧ ¬ IsTokenChar '\n' := by decide
  have hname : Text.Unbroken header.1 := by
    intro c hc
    have hc := h.token c hc
    exact ⟨fun heq => htoken.1 (heq ▸ hc), fun heq => htoken.2 (heq ▸ hc)⟩
  have hvalue : Text.Unbroken header.2 := by
    intro c hc
    rcases h.value c hc with rfl | ⟨hlow, -⟩
    · decide
    · constructor <;> rintro rfl <;> exact absurd hlow (by decide)
  have hcolon : Text.Unbroken ": " := by decide
  exact (hname.append hcolon).append hvalue

/-! ## Status lines -/

/-- The first line that is written is a status line. -/
theorem statusLine_statusLine (status : UInt16) : StatusLine status (Http.statusLine status) := by
  unfold Http.statusLine Http.statusTitle
  split
  next phrase hphrase => exact .reason hphrase
  next => exact .bare

/-- A status line is not broken. -/
theorem StatusLine.unbroken {status : UInt16} {first : String} (h : StatusLine status first) :
    Text.Unbroken first := by
  have hword : Text.Unbroken "Status: " := by decide
  have hspace : Text.Unbroken " " := by decide
  have hdigits : Text.Unbroken (toString status.toNat) := by
    intro c hc
    have hdigit : c.isDigit := by
      rw [Nat.toString_eq_repr, Nat.toList_repr] at hc
      exact Nat.isDigit_of_mem_toDigits (by decide) (by decide) hc
    constructor <;> rintro rfl <;> exact absurd hdigit (by decide)
  have hphrases : ∀ reason ∈ Http.reasons, Text.Unbroken reason.2 := by decide
  cases h with
  | bare => exact hword.append hdigits
  | @reason phrase hphrase =>
    obtain ⟨reason, hreason, rfl⟩ := Option.map_eq_some_iff.mp hphrase
    have hmem : reason ∈ Http.reasons := List.mem_of_find?_eq_some hreason
    exact hword.append ((hdigits.append hspace).append (hphrases reason hmem))

/-! ## Responses -/

/-- A written response is its lines with line breaks between them, an empty line and the body. -/
theorem toList_response (status : UInt16) (headers : NameTable .ignoringCase) (body : String) :
    (Draft.response status headers body).toList =
      ['\r', '\n'].intercalate
          ((Http.statusLine status :: headers.toList.map headerText).map String.toList) ++
        ['\r', '\n', '\r', '\n'] ++ body.toList := by
  have hlines : (String.join (headers.toList.map Draft.headerLine)).toList =
      ((headers.toList.map headerText).map String.toList).flatMap (· ++ ['\r', '\n']) := by
    simp only [String.toList_join, List.flatMap_map, Draft.headerLine, headerText,
      String.toList_append]
    rfl
  have hbreaks : ['\r', '\n', '\r', '\n'] = ['\r', '\n'] ++ ['\r', '\n'] := rfl
  rw [hbreaks, ← List.append_assoc, List.map_cons,
    Delimited.intercalate_append_self _ (List.cons_ne_nil _ _), List.flatMap_cons, ← hlines,
    Draft.response]
  simp only [String.toList_append]
  rfl

/-- Lines that are not broken and not empty end at the first empty line. -/
theorem firstCut_lines {lines : List String} (hlines : lines ≠ [])
    (hbreak : ∀ line ∈ lines, '\r' ∉ line.toList) (hnil : ∀ line ∈ lines, line.toList ≠ [])
    (body : List Char) :
    Delimited.FirstCut "\r\n\r\n".toList
      (['\r', '\n'].intercalate (lines.map String.toList) ++ ['\r', '\n', '\r', '\n'] ++ body)
      (String.intercalate "\r\n" lines).toList body := by
  have hcut := Delimited.cut?_blankLine (by decide : '\r' ≠ '\n')
    (mt List.map_eq_nil_iff.mp hlines) (List.forall_mem_map.mpr hbreak)
    (List.forall_mem_map.mpr hnil) body
  rw [String.toList_intercalate]
  exact (Delimited.cut?_eq_some_iff.mp hcut).2

section Response

variable (status : UInt16) {headers : NameTable .ignoringCase} (hheaders : Headers headers.toList)
include hheaders

/-- The lines of a head are not broken. -/
theorem unbroken_lines {line : String}
    (hline : line ∈ Http.statusLine status :: headers.toList.map headerText) :
    '\r' ∉ line.toList ∧ '\n' ∉ line.toList := by
  rcases List.mem_cons.mp hline with rfl | hline
  · exact (statusLine_statusLine status).unbroken.not_mem
  · obtain ⟨header, hheader, rfl⟩ := List.mem_map.mp hline
    exact (hheaders.sendable header hheader).unbroken.not_mem

/-- A response has the lines of its head before its first empty line. -/
theorem firstCut_response (body : String) :
    Delimited.FirstCut "\r\n\r\n".toList (Draft.response status headers body).toList
      (String.intercalate "\r\n"
        (Http.statusLine status :: headers.toList.map headerText)).toList body.toList := by
  -- An empty line among the lines would end the head too early.
  have hnonempty : ∀ line ∈ Http.statusLine status :: headers.toList.map headerText,
      line.toList ≠ [] := by
    refine List.forall_mem_cons.mpr ⟨?_, List.forall_mem_map.mpr fun header _ => ?_⟩
    · simp [Http.statusLine]
    · simp [headerText]
  rw [toList_response]
  exact firstCut_lines (List.cons_ne_nil _ _)
    (fun _ hline => (unbroken_lines status hheaders hline).1) hnonempty body.toList

/-- A response with the headers of a table is well formed. -/
theorem wellFormed_response (body : String) :
    WellFormed status (Draft.response status headers body) :=
  ⟨_, body.toList,
    ⟨⟨_, _, rfl, statusLine_statusLine status, hheaders⟩, fun _ => unbroken_lines status hheaders⟩,
    firstCut_response status hheaders body⟩

end Response

/-- The headers of a table are those of a response if each can be sent, the connection is closed
and there is a content type. -/
theorem headers_toList {headers : NameTable .ignoringCase}
    (hsendable : ∀ header ∈ headers.toList, Sendable header)
    (hconnection : headers.get? "Connection" = some "close")
    (htype : headers.contains "Content-Type") : Headers headers.toList := by
  have hnamed (name : String) :
      (named name headers.toList).map (·.2) = (headers.get? name).toList :=
    headers.map_filter_key name
  refine ⟨hsendable, headers.nodup_keys, ?_, ?_⟩
  · rw [hnamed, hconnection]
    rfl
  · obtain ⟨value, hvalue⟩ := Option.isSome_iff_exists.mp
      ((NameTable.contains_eq_isSome_get? headers _).symm.trans htype)
    rw [← List.length_map (·.2), hnamed, hvalue]
    rfl

/-- The names of headers that are sent can be given the value that closes the connection. -/
theorem Sendable.close {name value : String} (h : Sendable (name, value)) :
    Sendable (name, "close") := by
  have hvalue : ∀ c ∈ "close".toList, c = '\t' ∨ 32 ≤ c.toNat ∧ c.toNat ≤ 126 :=
    List.all_iff_forall_prop.mp (by decide)
  exact ⟨h.name_ne, h.token, hvalue, h.ne_status⟩

/-- Headers that are not refused are sent as the headers of a response. -/
theorem headers_sentHeaders {draft : Draft}
    (hdraft : draft.headers.toList.findSome? Draft.refusal? = none) :
    Headers draft.sentHeaders.toList := by
  -- Two headers are set last: a content type unless there is one, and then the connection.
  have htyped : ∀ header ∈ (draft.headers.insertIfAbsent "Content-Type" "text/plain").toList,
      Sendable header := by
    intro header hheader
    rcases NameTable.mem_toList_insertIfAbsent hheader with hheader | rfl
    · exact sendable_of_refusal? (List.findSome?_eq_none_iff.mp hdraft header hheader)
    · exact sendable_of_all (by decide) (by decide) (by decide) (by decide)
  refine headers_toList ?_ NameTable.get?_insert_self ?_
  · rintro ⟨name, value⟩ hheader
    rcases NameTable.mem_toList_insert hheader with hheader | ⟨rfl, rfl | ⟨old, hold⟩⟩
    · exact htyped _ hheader
    · exact sendable_of_all (by decide) (by decide) (by decide) (by decide)
    · exact (htyped _ hold).close
  · rw [Draft.sentHeaders, NameTable.contains_insert, NameTable.contains_insertIfAbsent,
      beq_self_eq_true, Bool.or_true, Bool.true_or]

/-- What a draft makes is well formed. -/
theorem wellFormed_of_finish {draft : Draft} {status : UInt16} {output : String}
    (h : draft.finish status = .ok output) : WellFormed status output := by
  unfold Draft.finish at h
  split at h
  next => cases h
  next hdraft =>
    cases h
    exact wellFormed_response status (headers_sentHeaders hdraft) _

/-- The headers of an error page. -/
theorem toList_headers :
    Page.headers.toList = [("Content-Type", "text/html"), ("Connection", "close")] := by
  have hne : Text.lower "Connection" ≠ Text.lower "Content-Type" :=
    mt Text.lower_eq_lower_iff.mp (by decide)
  rw [Page.headers, NameTable.toList_ofList]
  simp [NameTable.firsts, NameRule.key, hne]

/-- The headers of an error page are those of a response. -/
theorem headers_page : Headers Page.headers.toList := by
  refine headers_toList ?_ ?_ ?_
  · rw [toList_headers]
    refine List.forall_mem_cons.mpr ⟨?_, List.forall_mem_singleton.mpr ?_⟩ <;>
      exact sendable_of_all (by decide) (by decide) (by decide) (by decide)
  · have hne : Text.lower "Content-Type" ≠ Text.lower "Connection" :=
      mt Text.lower_eq_lower_iff.mp (by decide)
    rw [NameTable.get?_eq, toList_headers]
    simp [NameRule.key, hne]
  · rw [NameTable.contains_iff, toList_headers]
    exact ⟨_, List.mem_cons_self, rfl⟩

/-- An error page is well formed. -/
theorem wellFormed_page (status : UInt16) (message : String) :
    WellFormed status (Page.response status message) :=
  wellFormed_response status headers_page _

/-- The head of an error page holds the status and two headers, whatever the message is. -/
theorem firstCut_page (status : UInt16) (message : String) :
    Delimited.FirstCut "\r\n\r\n".toList (Page.response status message).toList
      (String.intercalate "\r\n"
        [Http.statusLine status, "Content-Type: text/html", "Connection: close"]).toList
      (Page.page (Http.statusTitle status) message).toList := by
  have hcut := firstCut_response status headers_page (Page.page (Http.statusTitle status) message)
  rw [toList_headers] at hcut
  exact hcut

end RelationGateway.Response
