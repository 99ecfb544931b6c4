import RelationGateway.Proofs.Cgi.Headers
import RelationGateway.Proofs.Log.Masking

/-!
# Nobody forges a line of the log

A block is read line by line, so nothing that a request takes from it holds a line feed. Masking
puts none into a value, so the lines of a summary are the ones that it was made of, whatever the
block says.

* `Text.OneLine`: the text holds no line feed;
* `Cgi.oneLine_of_mem_read`, `Cgi.oneLine_headerName?`: variables and headers of a block;
* `Request.OneLined`, `Request.oneLined_identify`: what the request of a block holds;
* `oneLine_of_mem_summaryLines`: the lines of a summary;
* `segments_summary_identify`: how many lines a summary has, and which.
-/

namespace RelationGateway.Text

/-- The text holds no line feed. -/
def OneLine (s : String) : Prop := '\n' ∉ s.toList

instance : DecidablePred OneLine := fun s => inferInstanceAs (Decidable ('\n' ∉ s.toList))

/-- A joined text is one line exactly if both parts are. -/
theorem oneLine_append_iff {s t : String} : OneLine (s ++ t) ↔ OneLine s ∧ OneLine t := by
  rw [OneLine, String.toList_append, List.mem_append, not_or]
  rfl

end RelationGateway.Text

namespace RelationGateway.Cgi

open Text

/-- The variables of a block have names and values of one line. -/
theorem oneLine_of_mem_read {block : String} {pair : String × String} (hpair : pair ∈ read block) :
    OneLine pair.1 ∧ OneLine pair.2 := by
  obtain ⟨line, hmem, hread⟩ := List.mem_filterMap.mp hpair
  have hline : OneLine line := not_mem_of_mem_segments rfl (List.mem_of_mem_drop hmem)
  have htrimmed : OneLine (trim line) := mt mem_of_mem_trim hline
  -- The name and the value are what is left of the line without the sign between them.
  obtain ⟨hcut, -⟩ := Option.filter_eq_some_iff.mp hread
  rw [eq_append_of_cut? hcut, oneLine_append_iff, oneLine_append_iff] at htrimmed
  exact ⟨htrimmed.1.1, htrimmed.2⟩

/-- The name of a header is one line if that of its variable is. -/
theorem oneLine_headerName? {name header : String} (hname : OneLine name)
    (h : headerName? name = some header) : OneLine header := by
  have hlower := map_lower_headerName? name
  rw [h, Option.map_some, eq_comm, Option.map_eq_some_iff] at hlower
  obtain ⟨carried, hcarried, hlower⟩ := hlower
  -- A line feed has no case, so the letters of the variable may be looked at.
  rw [OneLine, ← mem_iff_of_lower_eq hlower (by decide)]
  obtain ⟨rest, hrest, rfl⟩ := Option.map_eq_some_iff.mp hcarried
  rw [dropStart?_eq_some_iff.mp hrest, oneLine_append_iff] at hname
  rw [substitute, String.toList_map, List.mem_map]
  rintro ⟨c, hc, hsign⟩
  split at hsign
  · cases hsign
  · exact hname.2 (hsign ▸ hc)

/-- The headers of a block have names and values of one line. -/
theorem oneLine_of_mem_headers {block : String} {header : String × String}
    (hheader : header ∈ (headers (read block)).toList) :
    OneLine header.1 ∧ OneLine header.2 := by
  rw [headers, NameTable.toList_ofList] at hheader
  obtain ⟨pair, hpair, hcarries⟩ :=
    List.mem_filterMap.mp ((NameTable.firsts_sublist _ _).subset hheader)
  obtain ⟨name, hname, rfl⟩ := Option.map_eq_some_iff.mp hcarries
  obtain ⟨hnameLine, hvalueLine⟩ := oneLine_of_mem_read hpair
  exact ⟨oneLine_headerName? hnameLine hname, hvalueLine⟩

end RelationGateway.Cgi

namespace RelationGateway.Request

open Text

/-- Nothing that a summary shows of the request holds a line feed. -/
structure OneLined (r : Request) : Prop where
  /-- The method is one line. -/
  method : OneLine r.method.text
  /-- The path is one line. -/
  path : OneLine r.path
  /-- The query string is one line. -/
  queryString : OneLine r.queryString
  /-- The variables have values of one line. -/
  environment : ∀ name value, r.environment.get? name = some value → OneLine value
  /-- The headers have names and values of one line. -/
  headers : ∀ header ∈ r.headers.toList, OneLine header.1 ∧ OneLine header.2

variable (block : String)

/-- A value that is found among the variables of a block is one line. -/
theorem oneLine_of_get?_read {name value : String}
    (h : (NameTable.ofList (Cgi.read block) : NameTable .exact).get? name = some value) :
    OneLine value := by
  rw [NameTable.get?_ofList] at h
  obtain ⟨pair, hpair, rfl⟩ := Option.map_eq_some_iff.mp h
  exact (Cgi.oneLine_of_mem_read (List.mem_of_find?_eq_some hpair)).2

theorem oneLine_environmentUrl : OneLine (environmentUrl (.ofList (Cgi.read block))) := by
  rw [environmentUrl]
  cases hurl : Option.filter (fun url : String => !url.isEmpty)
      ((NameTable.ofList (Cgi.read block) : NameTable .exact).get? "REQUEST_URI") with
  | none => decide
  | some url => exact oneLine_of_get?_read block (Option.filter_eq_some_iff.mp hurl).1

/-- The path and the query string of a URL of one line are of one line each. -/
theorem oneLine_parts {url : String} (hurl : OneLine url) :
    OneLine (Url.parts url).1 ∧ OneLine (Url.parts url).2 := by
  rw [Url.parts]
  cases hcut : cut? "?" url with
  | none => exact ⟨hurl, (by decide : OneLine "")⟩
  | some parts =>
    rw [eq_append_of_cut? hcut, oneLine_append_iff, oneLine_append_iff] at hurl
    exact ⟨hurl.1.1, hurl.2⟩

/-- The request of a block holds no line feed. -/
theorem oneLined_identify : (identify block).OneLined where
  method := by
    rw [method_identify]
    exact not_mem_environmentMethod (by decide) fun pair hpair _ =>
      (Cgi.oneLine_of_mem_read hpair).2
  path := by
    rw [path_identify, url_identify]
    exact (oneLine_parts (oneLine_environmentUrl block)).1
  queryString := by
    rw [queryString_identify, url_identify]
    exact (oneLine_parts (oneLine_environmentUrl block)).2
  environment := by
    rw [environment_identify]
    exact fun _ _ => oneLine_of_get?_read block
  headers := by
    rw [headers_identify]
    exact fun _ => Cgi.oneLine_of_mem_headers

end RelationGateway.Request

namespace RelationGateway.Log

open Text
open Request (identify)

/-! ## Lines of a summary -/

theorem oneLine_maskQuery {query : String} (hquery : OneLine query) : OneLine (maskQuery query) :=
  fun hc => (mem_of_mem_maskQuery hc).elim hquery (by decide)

theorem oneLine_maskValue (name : String) {value : String} (hvalue : OneLine value) :
    OneLine (maskValue name value) :=
  fun hc => (mem_of_mem_maskValue hc).elim hvalue (by decide)

theorem oneLine_valueLine {indent name value : String} (hindent : OneLine indent)
    (hname : OneLine name) (hvalue : OneLine value) : OneLine (valueLine indent name value) := by
  have hsign : OneLine "=" := by decide
  simp only [valueLine, oneLine_append_iff]
  exact ⟨⟨⟨hindent, hname⟩, hsign⟩, hvalue⟩

variable {r : Request}

theorem oneLine_of_mem_variableLines (h : r.OneLined) :
    ∀ line ∈ variableLines r, OneLine line := by
  have hshown : ∀ name ∈ shownVariables, OneLine name := by decide
  intro line hline
  obtain ⟨name, hname, hfound⟩ := List.mem_filterMap.mp hline
  obtain ⟨value, hvalue, rfl⟩ := Option.map_eq_some_iff.mp hfound
  exact oneLine_valueLine (by decide) (hshown name hname)
    (oneLine_maskValue name (h.environment name value hvalue))

theorem oneLine_of_mem_headerLines (h : r.OneLined) : ∀ line ∈ headerLines r, OneLine line := by
  unfold headerLines
  split
  · decide
  · refine List.forall_mem_map.mpr fun header hheader => ?_
    obtain ⟨hname, hvalue⟩ := h.headers header hheader
    exact oneLine_valueLine (by decide) hname (oneLine_maskValue header.1 hvalue)

theorem oneLine_of_mem_summaryLines (h : r.OneLined) : ∀ line ∈ summaryLines r, OneLine line := by
  have htitles : OneLine "Request context:" ∧ OneLine "  HTTP headers:" := by decide
  have hmethod : OneLine (valueLine "  " "REQUEST_METHOD" r.method.text) :=
    oneLine_valueLine (by decide) (by decide) h.method
  have hpath : OneLine (valueLine "  " "PATH" r.path) :=
    oneLine_valueLine (by decide) (by decide) h.path
  have hquery : OneLine (valueLine "  " "QUERY_STRING" (maskQuery r.queryString)) :=
    oneLine_valueLine (by decide) (by decide) (oneLine_maskQuery h.queryString)
  simp only [summaryLines, List.forall_mem_append, List.forall_mem_cons]
  exact ⟨⟨⟨htitles.1, hmethod, hpath, hquery, by simp⟩, oneLine_of_mem_variableLines h⟩,
    htitles.2, oneLine_of_mem_headerLines h⟩

/-- The lines of a summary are the ones that it was made of. -/
theorem segments_summary (h : r.OneLined) : segments "\n" (summary r) = summaryLines r :=
  (segments_singleton_eq_iff rfl).mpr
    ⟨by simp [summaryLines], oneLine_of_mem_summaryLines h, rfl⟩

/-- There is a line for each of the shown variables that the environment has. -/
theorem length_variableLines (r : Request) :
    (variableLines r).length = shownVariables.countP r.environment.contains := by
  rw [variableLines, List.length_filterMap_eq_countP]
  refine List.countP_congr fun name _ => ?_
  rw [Option.isSome_map, NameTable.contains_eq_isSome_get?]

/-- There is a line for each header, and one if there are none. -/
theorem length_headerLines (r : Request) : (headerLines r).length = max 1 r.headers.size := by
  rw [headerLines, NameTable.isEmpty, NameTable.size, NameTable.toList]
  split
  next hempty =>
    -- One line tells that there are no headers.
    rw [Array.isEmpty_iff.mp hempty]
    rfl
  next hempty =>
    have hpos : 0 < r.headers.entries.size :=
      Array.size_pos_iff.mpr (mt Array.isEmpty_iff.mpr hempty)
    rw [List.length_map, Array.length_toList, max_eq_right hpos]

/-- The summary of the request that a block tells of is made of the same lines whatever the block
says: the title, the method, the path and the query string, then a line for each shown variable
that there is, and the headers under their title. No value makes or hides a line, so there are
five more of them than there are shown variables and headers, with one line for no headers. -/
theorem segments_summary_identify (block : String) :
    segments "\n" (summary (identify block)) =
        ["Request context:", "  REQUEST_METHOD=" ++ (identify block).method.text,
          "  PATH=" ++ (identify block).path,
          "  QUERY_STRING=" ++ maskQuery (identify block).queryString] ++
        shownVariables.filterMap (fun name =>
          ((identify block).environment.get? name).map fun value =>
            "  " ++ name ++ "=" ++ maskValue name value) ++
        "  HTTP headers:" :: (if (identify block).headers.isEmpty then ["    (none)"] else
          (identify block).headers.toList.map fun header =>
            "    " ++ header.1 ++ "=" ++ maskValue header.1 header.2) ∧
      (segments "\n" (summary (identify block))).length =
        5 + shownVariables.countP (identify block).environment.contains +
          max 1 (identify block).headers.size := by
  have hlines : segments "\n" (summary (identify block)) = summaryLines (identify block) :=
    segments_summary (Request.oneLined_identify block)
  -- The texts in front of these values are joined of an indent, a name and `=`.
  have hvalues (method path query : String) :
      valueLine "  " "REQUEST_METHOD" method = "  REQUEST_METHOD=" ++ method ∧
        valueLine "  " "PATH" path = "  PATH=" ++ path ∧
        valueLine "  " "QUERY_STRING" query = "  QUERY_STRING=" ++ query := by
    simp only [← String.toList_inj, valueLine, String.toList_append]
    exact ⟨rfl, rfl, rfl⟩
  obtain ⟨hmethod, hpath, hquery⟩ := hvalues (identify block).method.text (identify block).path
    (maskQuery (identify block).queryString)
  constructor
  · rw [hlines, summaryLines, hmethod, hpath, hquery]
    rfl
  · rw [hlines]
    simp only [summaryLines, List.length_append, List.length_cons, List.length_nil,
      length_variableLines, length_headerLines]
    omega

end RelationGateway.Log
