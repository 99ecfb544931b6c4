import RelationGateway.Proofs.Request.Identity
import RelationGateway.Proofs.Url.Form
import RelationGateway.Request.Payload

/-!
# Sent forms are read back

A form may be sent with variables in the query string of the URL and others in the body. The
request that is read has the variables of both, whatever texts their names and values are made of;
of several with one name the first counts, so that the URL comes before the body.

* `formVariables`: the variables of the environment with which a form is sent;
* `read_writeForm`: the query variables of a sent form.
-/

namespace RelationGateway.Request

/-- The variables of the environment with which a form is sent to a path, with some variables in
the query string. -/
def formVariables (path : String) (inUrl : List (String × String)) : List (String × String) :=
  [("REQUEST_METHOD", "POST"), ("REQUEST_URI", path ++ "?" ++ Url.writeForm inUrl),
    ("CONTENT_TYPE", "application/x-www-form-urlencoded")]

section Form

variable {path : String} {inUrl inBody : List (String × String)}

theorem isVariableName_formVariables (path : String) (inUrl : List (String × String)) :
    ∀ pair ∈ formVariables path inUrl, Cgi.isVariableName pair.1 := by
  simp only [formVariables, List.forall_mem_cons, List.not_mem_nil, false_implies, implies_true,
    and_true]
  decide

/-- None of the variables is a header. -/
theorem headers_formVariables (path : String) (inUrl : List (String × String)) :
    (identify (Cgi.write (formVariables path inUrl))).headers = .empty := by
  have hnone : ∀ name ∈ ["REQUEST_METHOD", "REQUEST_URI", "CONTENT_TYPE"],
      Cgi.headerName? name = none := by decide
  have hheaders : ((formVariables path inUrl).map Cgi.kept).filterMap Cgi.header? = [] := by
    rw [List.filterMap_eq_nil_iff]
    refine List.forall_mem_map.mpr fun pair hpair => ?_
    have hname : pair.1 ∈ ["REQUEST_METHOD", "REQUEST_URI", "CONTENT_TYPE"] :=
      List.mem_map_of_mem (f := Prod.fst) hpair
    rw [Cgi.header?, Cgi.fst_kept, hnone _ hname, Option.map_none]
  rw [headers_identify, Cgi.read_write_eq (isVariableName_formVariables path inUrl), Cgi.headers,
    hheaders]
  rfl

/-- The body is that of a form, and it is not compressed. -/
theorem withBody_formVariables (path : String) (inUrl : List (String × String))
    (body : List UInt8) :
    let identity := identify (Cgi.write (formVariables path inUrl))
    identity.isCompressed = false ∧ identity.withBody body =
      { identity with query := Url.merge identity.query (Text.trim (Utf8.decode body)) } := by
  have hvalid := isVariableName_formVariables path inUrl
  have hnoHeader (name : String) :
      (identify (Cgi.write (formVariables path inUrl))).headers.get? name = none := by
    rw [headers_formVariables, NameTable.get?_eq]
    rfl
  have htype : (identify (Cgi.write (formVariables path inUrl))).mediaType =
      "application/x-www-form-urlencoded" := by
    have hlookup : (formVariables path inUrl).lookup "CONTENT_TYPE" =
        some "application/x-www-form-urlencoded" := rfl
    have hkept : Text.lower (Text.trimEnd (Cgi.firstLine "application/x-www-form-urlencoded")) =
        "application/x-www-form-urlencoded" := by decide +kernel
    rw [mediaType, environment_identify, get?_ofList_read_write hvalid, hlookup, Option.map_some]
    exact hkept
  refine ⟨?_, ?_⟩
  · have hempty : Text.sameIgnoringCase "" "gzip" = false := by decide +kernel
    rw [isCompressed, hnoHeader]
    exact hempty
  · have hmultipart :
        startsWith "multipart/form-data" "application/x-www-form-urlencoded" = false := by decide
    have hform : startsWith "application/x-www-form-urlencoded"
        "application/x-www-form-urlencoded" = true := by decide
    simp only [withBody, htype, hmultipart, hform, Bool.false_eq_true, if_false, if_true]

/-- The URL has the query variables that were written into it. -/
theorem query_formVariables (hpath : '?' ∉ path.toList) (hline : '\n' ∉ path.toList)
    (inUrl : List (String × String)) :
    (identify (Cgi.write (formVariables path inUrl))).query = .ofList inUrl := by
  have hvisible : ∀ c ∈ (Url.writeForm inUrl).toList, Url.Visible ['%', '+', '=', '&'] c :=
    fun _ => Url.visible_of_mem_writeForm
  have hurl : (identify (Cgi.write (formVariables path inUrl))).url =
      path ++ "?" ++ Url.writeForm inUrl := by
    have hunbroken : '\n' ∉ (path ++ "?" ++ Url.writeForm inUrl).toList := by
      simp only [String.toList_append, List.mem_append, not_or]
      exact ⟨⟨hline, by decide⟩, mt (hvisible '\n') (by decide)⟩
    refine url_identify_write (isVariableName_formVariables path inUrl) rfl (by simp) hunbroken ?_
    -- Nothing is trimmed from the path in front of the question mark, nor from the form behind it.
    rw [Text.trimEnd_append rfl (by decide),
      Text.trimEnd_eq_self (Url.unpadded_of_visible hvisible)]
  rw [query_identify, hurl, Url.parts, Text.cut?_of_not_mem rfl hpath, Option.getD_some,
    Url.readForm_eq, Url.readPairs_writeForm]

/-- A form that is sent to a path, with some variables in the URL and others in a body within the
limit, is read as a request. Its query variables are those of the URL and then those of the body,
each name where it comes first and with its first value, and it has no files and no fields. -/
theorem read_writeForm (hpath : '?' ∉ path.toList) (hline : '\n' ∉ path.toList)
    (settings : Settings) (expander : Gzip.Expander)
    (hsize : (Utf8.encode (Url.writeForm inBody)).length ≤ settings.maxBodySize.toNat) :
    ∃ request,
      (identify (Cgi.write (formVariables path inUrl))).read
          (Utf8.encode (Url.writeForm inBody)) settings expander = .ok request ∧
        request.query.toList = NameTable.firsts .exact (inUrl ++ inBody) ∧
        request.uploads = [] ∧ request.fields.toList = [] := by
  have hmethod : (identify (Cgi.write (formVariables path inUrl))).method = .post :=
    method_identify_write (isVariableName_formVariables path inUrl) (by decide) rfl
  obtain ⟨hplain, hwith⟩ :=
    withBody_formVariables path inUrl (Utf8.encode (Url.writeForm inBody))
  have hquery := query_formVariables hpath hline inUrl
  -- The body is read as the text that was written, from which nothing is trimmed.
  have htext : Text.trim (Utf8.decode (Utf8.encode (Url.writeForm inBody))) =
      Url.writeForm inBody := by
    rw [Utf8.decode_encode]
    exact Text.trim_eq_self (Url.unpadded_of_visible fun _ => Url.visible_of_mem_writeForm)
  have hmerged : Url.merge (.ofList inUrl) (Url.writeForm inBody) = .ofList (inUrl ++ inBody) := by
    rw [Url.merge_ofList, Url.readPairs_writeForm]
  have huploads := uploads_identify (Cgi.write (formVariables path inUrl))
  have hfields : (identify (Cgi.write (formVariables path inUrl))).fields.toList = [] := by
    rw [fields_identify]
    rfl
  rw [hquery, htext, hmerged] at hwith
  -- Nothing else matters of the request that the environment tells of.
  generalize identify (Cgi.write (formVariables path inUrl)) = identity at *
  simp only [read, if_neg (Nat.not_lt.mpr hsize), hmethod, hplain, hwith, Bool.false_eq_true,
    if_false, ne_eq, not_true_eq_false, false_or]
  split
  next hempty =>
    -- Only a form without pairs is empty, so the body would have added nothing.
    have hform : Url.writeForm inBody = "" := by
      rw [← Utf8.decode_encode (Url.writeForm inBody), List.isEmpty_iff.mp hempty]
      rfl
    have hnil : inBody = [] := by
      rw [← Url.readPairs_writeForm inBody, hform]
      rfl
    refine ⟨identity, rfl, ?_, huploads, hfields⟩
    rw [hquery, hnil, List.append_nil, NameTable.toList_ofList]
  next => exact ⟨_, rfl, NameTable.toList_ofList (inUrl ++ inBody), huploads, hfields⟩

/-- Names and values may be made of separators, blanks and characters beyond ASCII, and be empty;
a name in the URL keeps its value from there. -/
theorem read_writeForm_separators :
    ∃ request,
      (identify (Cgi.write (formVariables "/p" [("a&=", "1"), ("", "\n")]))).read
          (Utf8.encode (Url.writeForm [(" é", "%+"), ("a&=", "2"), (" é", "")])) {} .ofMembers =
        .ok request ∧
      request.query.toList = [("a&=", "1"), ("", "\n"), (" é", "%+")] ∧
        request.uploads = [] ∧ request.fields.toList = [] := by
  have hsize : (Utf8.encode (Url.writeForm [(" é", "%+"), ("a&=", "2"), (" é", "")])).length ≤
      ({} : Settings).maxBodySize.toNat := by decide +kernel
  have hpath : '?' ∉ "/p".toList ∧ '\n' ∉ "/p".toList := by decide
  exact read_writeForm hpath.1 hpath.2 {} .ofMembers hsize

end Form

end RelationGateway.Request
