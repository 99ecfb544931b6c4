import RelationGateway.Proofs.Cgi.Environment
import RelationGateway.Proofs.NameTable
import RelationGateway.Proofs.Text.Basic
import RelationGateway.Request.Identity

/-!
# What a block of the environment tells

The fields of a request that a block tells of, each by the variables that it comes from.

* `method_identify` and the others: each field by what the block is read as;
* `method_identify_write`, `url_identify_write`: the method and the URL that a written block names.
-/

namespace RelationGateway.Request

theorem ofUrl_eq (method : Http.Method) (url : String) :
    ofUrl method url =
      { method, url, path := (Url.parts url).1, segments := Url.pathSegments (Url.parts url).1,
        queryString := (Url.parts url).2 } := rfl

section Fields

variable (block : String)

theorem method_identify :
    (identify block).method = environmentMethod (.ofList (Cgi.read block)) := by
  simp only [identify, ofUrl_eq]

theorem url_identify : (identify block).url = environmentUrl (.ofList (Cgi.read block)) := by
  simp only [identify, ofUrl_eq]

theorem path_identify : (identify block).path = (Url.parts (identify block).url).1 := by
  simp only [identify, ofUrl_eq]

theorem segments_identify :
    (identify block).segments = Url.pathSegments (Url.parts (identify block).url).1 := by
  simp only [identify, ofUrl_eq]

theorem queryString_identify :
    (identify block).queryString = (Url.parts (identify block).url).2 := by
  simp only [identify, ofUrl_eq]

theorem query_identify :
    (identify block).query = Url.readForm (Url.parts (identify block).url).2 := by
  simp only [identify, ofUrl_eq]

theorem environment_identify : (identify block).environment = .ofList (Cgi.read block) := by
  simp only [identify]

theorem headers_identify : (identify block).headers = Cgi.headers (Cgi.read block) := by
  simp only [identify]

theorem uploads_identify : (identify block).uploads = [] := by
  simp only [identify, ofUrl_eq]

theorem fields_identify : (identify block).fields = .empty := by
  simp only [identify, ofUrl_eq]

end Fields

/-- A character does not stand in the method if it stands in no variable with it. -/
theorem not_mem_environmentMethod {c : Char} {vars : List (String × String)}
    (hknown : ∀ method ∈ Http.Method.known, c ∉ method.text.toList)
    (hvars : ∀ pair ∈ vars, pair.1 = "REQUEST_METHOD" → c ∉ pair.2.toList) :
    c ∉ (environmentMethod (.ofList vars)).text.toList := by
  have hget : c ∉ Http.Method.get.text.toList := hknown .get List.mem_cons_self
  unfold environmentMethod
  split
  next text htext =>
    obtain ⟨value, hvalue, rfl⟩ := Option.map_eq_some_iff.mp htext
    rw [NameTable.get?_ofList] at hvalue
    obtain ⟨pair, hpair, rfl⟩ := Option.map_eq_some_iff.mp hvalue
    have hname : pair.1 = "REQUEST_METHOD" := by simpa [NameRule.key] using List.find?_some hpair
    have htrimmed : c ∉ (Text.trim pair.2).toList :=
      mt Text.mem_of_mem_trim (hvars pair (List.mem_of_find?_eq_some hpair) hname)
    split
    · exact hget
    · -- A method is one that is known by name, or else its own text.
      unfold Http.Method.ofText
      cases hnamed : Http.Method.named? (Text.trim pair.2) with
      | none => exact htrimmed
      | some method => exact hknown method (List.mem_of_find?_eq_some hnamed)
  next => exact hget

/-! ## Written blocks -/

section Written

variable {vars : List (String × String)} (hvalid : ∀ pair ∈ vars, Cgi.isVariableName pair.1)
include hvalid

/-- A variable has what is kept of the first value that was written under its name. -/
theorem get?_ofList_read_write (name : String) :
    (NameTable.ofList (Cgi.read (Cgi.write vars)) : NameTable .exact).get? name =
      (vars.lookup name).map fun value => Text.trimEnd (Cgi.firstLine value) := by
  rw [NameTable.get?_ofList_eq_lookup, Cgi.read_write_eq hvalid, Cgi.lookup_map_kept]

/-- A header has what is kept of the first variable that carries it. -/
theorem get?_headers_identify_write (name : String) :
    (identify (Cgi.write vars)).headers.get? name =
      (((vars.map Cgi.kept).filterMap Cgi.header?).find? fun header =>
        Text.lower header.1 == Text.lower name).map (·.2) := by
  rw [headers_identify, Cgi.read_write_eq hvalid, Cgi.headers, NameTable.get?_ofList]
  rfl

/-- The method is the known one that the block names. -/
theorem method_identify_write {method : Http.Method} (hknown : method ∈ Http.Method.known)
    (hmethod : vars.lookup "REQUEST_METHOD" = some method.text) :
    (identify (Cgi.write vars)).method = method := by
  -- The names of known methods are read as they are written.
  have hread : ∀ method ∈ Http.Method.known,
      let text := Text.trim (Text.trimEnd (Cgi.firstLine method.text))
      text.isEmpty = false ∧ Http.Method.ofText text = method := by decide
  obtain ⟨hempty, htext⟩ := hread method hknown
  rw [method_identify, environmentMethod, get?_ofList_read_write hvalid, hmethod]
  simp only [Option.map_some, hempty, htext, Bool.false_eq_true, if_false]

/-- The URL is the one that the block names, if it is a line that can be kept. -/
theorem url_identify_write {url : String} (hurl : vars.lookup "REQUEST_URI" = some url)
    (hne : url ≠ "") (hline : '\n' ∉ url.toList) (hend : Text.trimEnd url = url) :
    (identify (Cgi.write vars)).url = url := by
  have hkept : (some url).filter (fun url => !url.isEmpty) = some url :=
    Option.filter_some_pos (by simpa using hne)
  rw [url_identify, environmentUrl, get?_ofList_read_write hvalid, hurl, Option.map_some,
    Cgi.firstLine_eq_self hline, hend, hkept, Option.getD_some]

end Written

end RelationGateway.Request
