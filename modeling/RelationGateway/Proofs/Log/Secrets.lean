import RelationGateway.Log.Entry
import RelationGateway.Proofs.Cgi.Environment
import RelationGateway.Proofs.Related
import RelationGateway.Proofs.Request.Identity
import RelationGateway.Proofs.Url.Form

/-!
# Secrets stay out of the log

Values whose names suggest secrets can be anything without a difference to what is logged of a
failure, be they values of headers or of the query string of the URL.

* `Sensitive`: names that suggest a secret;
* `SamePiece`, `SameUrl`, `SameVariable`: to be the same but for secrets;
* `SameVariable.kept`: variables that are the same but for secrets are read so;
* `logged_write_eq`: what is logged does not tell secrets.
-/

namespace RelationGateway.Log

open Text

/-- The name holds, in whatever letters, a part that suggests a secret. -/
def Sensitive (name : String) : Prop :=
  ∃ part ∈ sensitiveParts, part.toList <:+: name.toList.map Char.toLower

instance : DecidablePred Sensitive := fun name => by
  unfold Sensitive
  infer_instance

/-- Two pieces of a query string are the same, but for their values if their name, which stands
before the first `=`, is sensitive. -/
inductive SamePiece : String → String → Prop
  | refl (piece : String) : SamePiece piece piece
  | secret {name : String} (hname : Sensitive name) (hcut : '=' ∉ name.toList)
      (value value' : String) : SamePiece (name ++ "=" ++ value) (name ++ "=" ++ value')

/-- Two URLs are the same, but for the pieces of the query strings behind their first question
marks, which are the same but for secrets. -/
inductive SameUrl : String → String → Prop
  | refl (url : String) : SameUrl url url
  | query {path query query' : String} (hpath : '?' ∉ path.toList)
      (hpieces : List.Forall₂ SamePiece (segments "&" query) (segments "&" query')) :
      SameUrl (path ++ "?" ++ query) (path ++ "?" ++ query')

/-- Two variables are the same, but for the value of a sensitive header, or for secrets in a URL of
one line. -/
inductive SameVariable : String × String → String × String → Prop
  | refl (pair : String × String) : SameVariable pair pair
  | header {name header : String} (hheader : Cgi.headerName? name = some header)
      (hsensitive : Sensitive header) (value value' : String) :
      SameVariable (name, value) (name, value')
  | url {url url' : String} (hline : '\n' ∉ url.toList) (hline' : '\n' ∉ url'.toList)
      (hsame : SameUrl url url') : SameVariable ("REQUEST_URI", url) ("REQUEST_URI", url')

/-! ## Masked values -/

/-- Sensitive names are taken for such. -/
theorem isSensitive_lower_iff {name : String} : isSensitive (lower name) ↔ Sensitive name := by
  have hholds (part : String) (hpart : part ∈ sensitiveParts) :
      holds part (lower name) ↔ part.toList <:+: name.toList.map Char.toLower := by
    have hne : ∀ part ∈ sensitiveParts, part.toList ≠ [] := by decide
    rw [holds, lower, String.toList_map, Option.isSome_iff_ne_none, Ne,
      Delimited.cut?_eq_none_iff, not_or, not_not]
    exact and_iff_right (hne part hpart)
  rw [isSensitive, List.any_eq_true, Sensitive]
  exact exists_congr fun part => and_congr_right (hholds part)

/-- The value of a sensitive name is masked whatever it is. -/
theorem maskValue_of_sensitive {name : String} (hname : Sensitive name) (value : String) :
    maskValue name value = mask := by
  have hsensitive := isSensitive_lower_iff.mpr hname
  -- A query string is masked piece by piece, but its name is not sensitive.
  have hquery : (lower name == "query_string") = false := by
    rw [beq_eq_false_iff_ne]
    intro heq
    rw [heq] at hsensitive
    exact absurd hsensitive (by decide)
  simp only [maskValue, hquery, hsensitive, if_true, Bool.false_eq_true, if_false]

/-- The value of a piece is masked if its name is sensitive. -/
theorem maskPiece_of_sensitive {piece : String} (hname : Sensitive (Url.nameAndValue piece).1) :
    maskPiece piece = (Url.nameAndValue piece).1 ++ "=" ++ mask :=
  congrArg ((Url.nameAndValue piece).1 ++ "=" ++ ·) (if_pos (isSensitive_lower_iff.mpr hname))

namespace SamePiece

variable {piece piece' : String}

theorem maskPiece_eq (h : SamePiece piece piece') : maskPiece piece = maskPiece piece' := by
  cases h with
  | refl => rfl
  | @secret name hname hcut value value' =>
    have hmask (v : String) : maskPiece (name ++ "=" ++ v) = name ++ "=" ++ mask := by
      have hvalue := Url.nameAndValue_append hcut v
      rw [maskPiece_of_sensitive (by rwa [hvalue]), hvalue]
    rw [hmask, hmask]

theorem isEmpty_eq (h : SamePiece piece piece') : piece.isEmpty = piece'.isEmpty := by
  cases h with
  | refl => rfl
  | @secret name hname hcut value value' =>
    have hne (v : String) : (name ++ "=" ++ v).isEmpty = false := by simp
    rw [hne, hne]

/-- Blanks at the end of a secret do not matter either. -/
theorem trimEnd (h : SamePiece piece piece') :
    SamePiece (Text.trimEnd piece) (Text.trimEnd piece') := by
  cases h with
  | refl => exact .refl _
  | @secret name hname hcut value value' =>
    rw [trimEnd_append rfl (by decide), trimEnd_append rfl (by decide)]
    exact .secret hname hcut _ _

end SamePiece

/-- Query strings whose pieces are the same but for secrets are masked alike. -/
theorem maskQuery_eq {query query' : String}
    (h : List.Forall₂ SamePiece (segments "&" query) (segments "&" query')) :
    maskQuery query = maskQuery query' := by
  -- Empty pieces are left out, and a piece is empty if the one that it is compared with is.
  have hpieces : ∀ query, (Url.pieces query).map maskPiece =
      (segments "&" query).filterMap fun piece =>
        if piece.isEmpty then none else some (maskPiece piece) := by
    intro query
    rw [Url.pieces, ← List.filterMap_eq_map, List.filterMap_filter]
    refine List.filterMap_congr fun piece _ => ?_
    cases hempty : piece.isEmpty <;> rfl
  rw [maskQuery, maskQuery, hpieces, hpieces]
  refine congrArg _ (filterMap_eq_of_forall₂ h fun piece piece' hsame => ?_)
  rw [hsame.isEmpty_eq, hsame.maskPiece_eq]

/-! ## URLs -/

/-- Trimming the end of a query string trims its last piece. -/
theorem exists_segments_trimEnd (query : String) :
    ∃ front last, segments "&" query = front ++ [last] ∧
      segments "&" (Text.trimEnd query) = front ++ [Text.trimEnd last] := by
  obtain ⟨hne, hpieces, hjoined⟩ :=
    (segments_singleton_eq_iff rfl).mp (rfl : segments "&" query = segments "&" query)
  obtain ⟨front, last, hsegments⟩ := (List.eq_nil_or_concat _).resolve_left hne
  rw [List.concat_eq_append] at hsegments
  rw [hsegments] at hpieces hjoined
  obtain ⟨hfront, hlast⟩ := List.forall_mem_append.mp hpieces
  refine ⟨front, last, hsegments, (segments_singleton_eq_iff rfl).mpr ⟨by simp, ?_, ?_⟩⟩
  · refine List.forall_mem_append.mpr ⟨hfront, List.forall_mem_singleton.mpr ?_⟩
    exact mt mem_of_mem_trimEnd (hlast last (by simp))
  · rw [← hjoined]
    by_cases hnil : front = []
    · rw [hnil, List.nil_append, List.nil_append, String.intercalate_singleton,
        String.intercalate_singleton]
    · -- In front of the last piece stands an ampersand, which is not trimmed.
      have hjoin (piece : String) : String.intercalate "&" (front ++ [piece]) =
          String.intercalate "&" front ++ "&" ++ piece := by
        rw [String.intercalate_append_of_ne_nil hnil (List.cons_ne_nil _ _),
          String.intercalate_singleton]
      rw [hjoin, hjoin, trimEnd_append rfl (by decide)]

namespace SameUrl

variable {url url' : String}

/-- Blanks at the end of a URL do not matter. -/
theorem trimEnd (h : SameUrl url url') : SameUrl (Text.trimEnd url) (Text.trimEnd url') := by
  cases h with
  | refl => exact .refl _
  | @query path query query' hpath hpieces =>
    rw [trimEnd_append rfl (by decide), trimEnd_append rfl (by decide)]
    -- All pieces but the last stay as they are, and of a secret any end may be trimmed.
    obtain ⟨front, last, hsegments, htrimmed⟩ := exists_segments_trimEnd query
    obtain ⟨front', last', hsegments', htrimmed'⟩ := exists_segments_trimEnd query'
    rw [hsegments, hsegments'] at hpieces
    obtain ⟨hfront, hlastSame⟩ := forall₂_concat_iff.mp hpieces
    refine .query hpath ?_
    rw [htrimmed, htrimmed']
    exact forall₂_concat_iff.mpr ⟨hfront, hlastSame.trimEnd⟩

theorem isEmpty_eq (h : SameUrl url url') : url.isEmpty = url'.isEmpty := by
  cases h with
  | refl => rfl
  | @query path query query' hpath hpieces =>
    have hne (q : String) : (path ++ "?" ++ q).isEmpty = false := by simp
    rw [hne, hne]

/-- The paths are the same, and the query strings are masked alike. -/
theorem parts_eq (h : SameUrl url url') :
    (Url.parts url).1 = (Url.parts url').1 ∧
      maskQuery (Url.parts url).2 = maskQuery (Url.parts url').2 := by
  cases h with
  | refl => exact ⟨rfl, rfl⟩
  | @query path query query' hpath hpieces =>
    have hparts (q : String) : Url.parts (path ++ "?" ++ q) = (path, q) := by
      rw [Url.parts, cut?_of_not_mem rfl hpath, Option.getD_some]
    rw [hparts, hparts]
    exact ⟨rfl, maskQuery_eq hpieces⟩

/-- The query strings are masked behind anything without a question mark. -/
theorem maskContext_eq (h : SameUrl url url') {front : String} (hfront : '?' ∉ front.toList) :
    maskContext (front ++ url) = maskContext (front ++ url') := by
  cases h with
  | refl => rfl
  | @query path query query' hpath hpieces =>
    -- The first question mark is that of the URL, whatever stands behind it.
    have hcut (q : String) :
        cut? "?" (front ++ (path ++ "?" ++ q)) = some (front ++ path, q) := by
      have hbefore : '?' ∉ (front ++ path).toList := by
        simpa [String.toList_append] using ⟨hfront, hpath⟩
      rw [← String.append_assoc, ← String.append_assoc]
      exact cut?_of_not_mem rfl hbefore q
    rw [maskContext, maskContext, hcut, hcut]
    exact congrArg (front ++ path ++ "?" ++ ·) (maskQuery_eq hpieces)

end SameUrl

/-! ## Variables -/

theorem headerName?_url : Cgi.headerName? "REQUEST_URI" = none := by decide

namespace SameVariable

variable {pair pair' : String × String}

theorem name_eq (h : SameVariable pair pair') : pair.1 = pair'.1 := by
  cases h <;> rfl

/-- Variables that are the same but for secrets are read as such. -/
theorem kept (h : SameVariable pair pair') : SameVariable (Cgi.kept pair) (Cgi.kept pair') := by
  cases h with
  | refl => exact .refl _
  | header hheader hsensitive value value' => exact .header hheader hsensitive _ _
  | @url url url' hline hline' hsame =>
    rw [Cgi.kept, Cgi.kept, Cgi.firstLine_eq_self hline, Cgi.firstLine_eq_self hline']
    exact .url (mt mem_of_mem_trimEnd hline) (mt mem_of_mem_trimEnd hline') hsame.trimEnd

/-- Variables with the URL have URLs that are the same but for secrets. -/
theorem sameUrl (h : SameVariable pair pair') (hname : pair.1 = "REQUEST_URI") :
    SameUrl pair.2 pair'.2 := by
  cases h with
  | refl => exact .refl _
  | header hheader =>
    dsimp only at hname
    rw [hname, headerName?_url] at hheader
    cases hheader
  | url hline hline' hsame => exact hsame

end SameVariable

/-- Two headers have one name, and one value unless the name is sensitive. -/
def SameHeader (header header' : String × String) : Prop :=
  header.1 = header'.1 ∧ (Sensitive header.1 ∨ header.2 = header'.2)

theorem SameVariable.rel_header? {pair pair' : String × String} (h : SameVariable pair pair') :
    Option.Rel SameHeader (Cgi.header? pair) (Cgi.header? pair') := by
  cases h with
  | refl =>
    cases Cgi.header? pair with
    | none => exact .none
    | some header => exact .some ⟨rfl, .inr rfl⟩
  | header hheader hsensitive value value' =>
    rw [Cgi.header?, Cgi.header?, hheader]
    exact .some ⟨rfl, .inl hsensitive⟩
  | url =>
    rw [Cgi.header?, Cgi.header?, headerName?_url]
    exact .none

/-! ## Requests -/

section Requests

variable {vars vars' : List (String × String)} (hsame : List.Forall₂ SameVariable vars vars')
include hsame

/-- A variable that is neither a header nor the URL has the same value. -/
theorem get?_ofList_eq {name : String} (hheader : Cgi.headerName? name = none)
    (hurl : name ≠ "REQUEST_URI") :
    (NameTable.ofList vars : NameTable .exact).get? name =
      (NameTable.ofList vars' : NameTable .exact).get? name := by
  rw [NameTable.get?_ofList, NameTable.get?_ofList]
  refine map_find?_eq_of_forall₂ hsame (fun pair pair' h => by rw [h.name_eq])
    fun pair pair' h hpair => ?_
  obtain rfl : pair.1 = name := by simpa [NameRule.key] using hpair
  -- Only headers and URLs may hold secrets.
  cases h with
  | refl => rfl
  | header hname => cases hheader.symm.trans hname
  | url => exact absurd rfl hurl

/-- The URLs of the requests are the same but for secrets. -/
theorem sameUrl_environmentUrl :
    SameUrl (Request.environmentUrl (.ofList vars)) (Request.environmentUrl (.ofList vars')) := by
  let isUrl (pair : String × String) : Bool :=
    NameRule.exact.key pair.1 == NameRule.exact.key "REQUEST_URI"
  have hfound := rel_find?_of_forall₂ hsame (p := isUrl)
    fun pair pair' h => by simp only [isUrl, h.name_eq]
  rw [Request.environmentUrl, Request.environmentUrl, NameTable.get?_ofList,
    NameTable.get?_ofList]
  revert hfound
  change Option.Rel _ (vars.find? isUrl) (vars'.find? isUrl) → SameUrl
    ((((vars.find? isUrl).map _).filter _).getD _) ((((vars'.find? isUrl).map _).filter _).getD _)
  generalize vars.find? isUrl = found
  generalize vars'.find? isUrl = found'
  intro hfound
  cases hfound with
  | none => exact .refl _
  | @some pair pair' h =>
    have hname : pair.1 = "REQUEST_URI" := by simpa [isUrl, NameRule.key] using h.2
    have hurl := h.1.sameUrl hname
    rw [Option.map_some, Option.map_some, Option.filter_some, Option.filter_some,
      hurl.isEmpty_eq]
    -- Without a URL the root is meant in both.
    cases pair'.2.isEmpty with
    | true => exact .refl _
    | false => exact hurl

/-- The headers of the requests are the same but for sensitive ones. -/
theorem sameHeader_headers :
    List.Forall₂ SameHeader (Cgi.headers vars).toList (Cgi.headers vars').toList := by
  rw [Cgi.headers, Cgi.headers, NameTable.toList_ofList, NameTable.toList_ofList]
  exact NameTable.forall₂_firsts (fun _ _ h => h.1)
    (List.rel_filterMap (fun _ _ h => h.rel_header?) hsame)

end Requests

/-! ## What is logged -/

/-- Headers that are the same but for sensitive ones are logged alike. -/
theorem headerLines_eq {r r' : Request}
    (h : List.Forall₂ SameHeader r.headers.toList r'.headers.toList) :
    headerLines r = headerLines r' := by
  let line (header : String × String) : String :=
    valueLine "    " header.1 (maskValue header.1 header.2)
  have hline (header header' : String × String) (hsame : SameHeader header header') :
      line header = line header' := by
    obtain ⟨hname, hsensitive | hvalue⟩ := hsame
    · -- Both values are masked, whatever they are.
      simp only [line]
      rw [maskValue_of_sensitive hsensitive, hname,
        maskValue_of_sensitive (hname ▸ hsensitive)]
    · rw [Prod.ext hname hvalue]
  have hlines : r.headers.toList.map line = r'.headers.toList.map line := by
    rw [← List.filterMap_eq_map]
    exact filterMap_eq_of_forall₂ h fun header header' hsame => congrArg some (hline _ _ hsame)
  have hempty (t : NameTable .ignoringCase) : t.isEmpty = (t.toList.map line).isEmpty := by
    rw [List.isEmpty_map, NameTable.toList, Array.isEmpty_toList]
    rfl
  change (if r.headers.isEmpty then _ else r.headers.toList.map line) =
    if r'.headers.isEmpty then _ else r'.headers.toList.map line
  rw [hempty, hempty, hlines]

/-- What is logged of a failure of the request that a block tells of. The context of the failure
is the line of the request behind a text that tells where it happened. -/
def logged (failure : Failure) (origin block : String) : String :=
  describe (failure.report (origin ++ (Request.identify block).line))
    (some (Request.identify block))

section Blocks

variable {block block' : String}
  (hsame : List.Forall₂ SameVariable (Cgi.read block) (Cgi.read block'))
include hsame

theorem method_identify_eq :
    (Request.identify block).method = (Request.identify block').method := by
  rw [Request.method_identify, Request.method_identify, Request.environmentMethod,
    Request.environmentMethod, get?_ofList_eq hsame (by decide) (by decide)]

theorem sameUrl_identify : SameUrl (Request.identify block).url (Request.identify block').url := by
  rw [Request.url_identify, Request.url_identify]
  exact sameUrl_environmentUrl hsame

theorem variableLines_identify_eq :
    variableLines (Request.identify block) = variableLines (Request.identify block') := by
  have hshown : ∀ name ∈ shownVariables, Cgi.headerName? name = none ∧ name ≠ "REQUEST_URI" := by
    decide
  rw [variableLines, variableLines, Request.environment_identify, Request.environment_identify]
  refine List.filterMap_congr fun name hname => ?_
  rw [get?_ofList_eq hsame (hshown name hname).1 (hshown name hname).2]

/-- The summaries of requests do not tell secrets. -/
theorem summary_identify_eq :
    summary (Request.identify block) = summary (Request.identify block') := by
  have hparts := (sameUrl_identify hsame).parts_eq
  have hheaders : headerLines (Request.identify block) = headerLines (Request.identify block') := by
    refine headerLines_eq ?_
    rw [Request.headers_identify, Request.headers_identify]
    exact sameHeader_headers hsame
  rw [summary, summary, summaryLines, summaryLines, method_identify_eq hsame,
    variableLines_identify_eq hsame, hheaders, Request.path_identify, Request.path_identify,
    Request.queryString_identify, Request.queryString_identify, hparts.1, hparts.2]

/-- What is logged of requests whose variables are the same but for secrets is the same. -/
theorem logged_eq_of_read (hmethod : '?' ∉ (Request.identify block).method.text.toList)
    {failure failure' : Failure} (hcode : failure.code = failure'.code)
    (hmessage : failure.message = failure'.message) (hdetail : failure.detail = failure'.detail)
    {origin : String} (horigin : '?' ∉ origin.toList) :
    logged failure origin block = logged failure' origin block' := by
  -- In front of the URL stands no question mark, so the query string is the one that is masked.
  have hfront : '?' ∉ (origin ++ ((Request.identify block).method.text ++ " ")).toList := by
    simpa [String.toList_append] using ⟨horigin, hmethod⟩
  have hcontext : maskContext (origin ++ (Request.identify block).line) =
      maskContext (origin ++ (Request.identify block').line) := by
    have hline (r : Request) : origin ++ r.line = origin ++ (r.method.text ++ " ") ++ r.url :=
      String.append_assoc.symm
    rw [hline, hline, ← method_identify_eq hsame]
    exact (sameUrl_identify hsame).maskContext_eq hfront
  simp only [logged, describe, Failure.report, hcode, hmessage, hdetail, hcontext, Option.map_some,
    summary_identify_eq hsame]

end Blocks

/-- Variables that are the same but for secrets are read as such from the blocks that are written
for them. -/
theorem forall₂_read_write {vars vars' : List (String × String)}
    (hvalid : ∀ pair ∈ vars, Cgi.isVariableName pair.1)
    (hsame : List.Forall₂ SameVariable vars vars') :
    List.Forall₂ SameVariable (Cgi.read (Cgi.write vars)) (Cgi.read (Cgi.write vars')) := by
  have hvalid' : ∀ pair ∈ vars', Cgi.isVariableName pair.1 :=
    forall_mem_of_forall₂ hsame (fun _ _ h hpair => h.name_eq ▸ hpair) hvalid
  rw [Cgi.read_write_eq hvalid, Cgi.read_write_eq hvalid', List.forall₂_map_left_iff,
    List.forall₂_map_right_iff]
  exact hsame.imp fun _ _ h => h.kept

/-- The method of a request holds no question mark if none is written. -/
theorem not_mem_method_identify_write {vars : List (String × String)}
    (hvalid : ∀ pair ∈ vars, Cgi.isVariableName pair.1)
    (hmethod : ∀ pair ∈ vars, pair.1 = "REQUEST_METHOD" → '?' ∉ pair.2.toList) :
    '?' ∉ (Request.identify (Cgi.write vars)).method.text.toList := by
  rw [Request.method_identify, Cgi.read_write_eq hvalid]
  refine Request.not_mem_environmentMethod (by decide) (List.forall_mem_map.mpr ?_)
  intro pair hpair hname hc
  rw [Cgi.fst_kept] at hname
  rw [Cgi.snd_kept] at hc
  -- What is kept of the method stands in the method.
  have hline := (Cgi.firstLine_prefix pair.2).subset (mem_of_mem_trimEnd hc)
  exact hmethod pair hpair hname hline

/-- Where failures happen is told without question marks. -/
theorem not_mem_origin :
    ∀ origin ∈ ["", "request decoding: ", "startup: "], '?' ∉ origin.toList := by
  decide

/-- Blocks of variables with the same names, whose values are the same but for secrets, tell of
requests of which the same is logged, whatever kept them from being answered. The methods hold no
question mark, and the failures have the same code, message and detail. -/
theorem logged_write_eq {vars vars' : List (String × String)}
    (hvalid : ∀ pair ∈ vars, Cgi.isVariableName pair.1)
    (hmethod : ∀ pair ∈ vars, pair.1 = "REQUEST_METHOD" → '?' ∉ pair.2.toList)
    (hsame : List.Forall₂ SameVariable vars vars')
    {failure failure' : Failure} (hcode : failure.code = failure'.code)
    (hmessage : failure.message = failure'.message) (hdetail : failure.detail = failure'.detail)
    {origin : String} (horigin : origin ∈ ["", "request decoding: ", "startup: "]) :
    logged failure origin (Cgi.write vars) = logged failure' origin (Cgi.write vars') :=
  logged_eq_of_read (forall₂_read_write hvalid hsame)
    (not_mem_method_identify_write hvalid hmethod) hcode hmessage hdetail
    (not_mem_origin origin horigin)

/-- Variables of a request with a secret in its URL and another in a header. -/
def withSecrets (token credentials : String) : List (String × String) :=
  [("REQUEST_METHOD", "get"), ("REQUEST_URI", "/a?token=" ++ token ++ "&b=1"),
    ("HTTP_AUTHORIZATION", credentials), ("REMOTE_ADDR", "::1")]

/-- The secrets may be of any length. -/
theorem logged_write_eq_withSecrets :
    logged (.internal "broken") "startup: " (Cgi.write (withSecrets "x" "Basic eDp5")) =
      logged (.internal "broken") "startup: " (Cgi.write (withSecrets "longer?" "")) := by
  have htoken : SamePiece ("token" ++ "=" ++ "x") ("token" ++ "=" ++ "longer?") :=
    .secret (by decide) (by decide) "x" "longer?"
  have hpieces : List.Forall₂ SamePiece (segments "&" "token=x&b=1")
      (segments "&" "token=longer?&b=1") :=
    .cons htoken (.cons (.refl "b=1") .nil)
  have hurl : SameUrl ("/a" ++ "?" ++ "token=x&b=1") ("/a" ++ "?" ++ "token=longer?&b=1") :=
    .query (by decide) hpieces
  have hsame : List.Forall₂ SameVariable (withSecrets "x" "Basic eDp5")
      (withSecrets "longer?" "") := by
    refine .cons (.refl _) (.cons (.url (by decide) (by decide) hurl) (.cons ?_ ?_))
    · have hheader : Cgi.headerName? "HTTP_AUTHORIZATION" = some "Authorization" := by decide
      exact .header hheader (by decide) _ _
    · exact .cons (.refl _) .nil
  exact logged_write_eq (by decide) (by decide) hsame rfl rfl rfl (by decide)

end RelationGateway.Log
