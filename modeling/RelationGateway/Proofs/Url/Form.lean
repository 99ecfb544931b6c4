import RelationGateway.Proofs.Delimited
import RelationGateway.Proofs.NameTable
import RelationGateway.Proofs.Url.Percent
import RelationGateway.Url.Form

/-!
# Query strings and forms are read back

A form is written as its pairs between ampersands, each pair as its name, `=` and its value, both
with escapes. It is read as the pairs that were written, whatever texts they are made of, and of
pairs from several forms the first of each name counts.

* `pieces_intercalate`: the pieces of texts between ampersands;
* `writeForm`, `readPairs_writeForm`: the pairs of a form are read back;
* `merge_ofList`: adding a query string to a table of pairs;
* `readPairs_append`, `merge_append`: query strings one behind the other.
-/

namespace RelationGateway.Url

/-- Texts between ampersands are the pieces, if none is empty. -/
theorem pieces_intercalate {texts : List String}
    (htexts : ∀ text ∈ texts, text ≠ "" ∧ '&' ∉ text.toList) :
    pieces (String.intercalate "&" texts) = texts := by
  cases texts with
  | nil =>
    -- No texts are joined to the empty text, whose only piece is empty.
    rw [String.intercalate_nil, pieces]
    rfl
  | cons text rest =>
    have hsegments : Text.segments "&" (String.intercalate "&" (text :: rest)) = text :: rest :=
      (Text.segments_singleton_eq_iff rfl).mpr
        ⟨List.cons_ne_nil _ _, fun piece hpiece => (htexts piece hpiece).2, rfl⟩
    rw [pieces, hsegments, List.filter_eq_self]
    intro piece hpiece
    simpa using (htexts piece hpiece).1

/-- The name of a piece stands before its first `=` and the value behind it. -/
theorem nameAndValue_append {name : String} (hname : '=' ∉ name.toList) (value : String) :
    nameAndValue (name ++ "=" ++ value) = (name, value) := by
  rw [nameAndValue, Text.cut?_of_not_mem rfl hname, Option.getD_some]

/-- A piece is its name and its value with `=` between, or its name alone, and then its value is
empty. -/
theorem eq_nameAndValue (piece : String) :
    piece = (nameAndValue piece).1 ++ "=" ++ (nameAndValue piece).2 ∨
      piece = (nameAndValue piece).1 ∧ (nameAndValue piece).2 = "" := by
  rw [nameAndValue]
  cases hcut : Text.cut? "=" piece with
  | none => exact .inr ⟨rfl, rfl⟩
  | some cut => exact .inl (Text.eq_append_of_cut? hcut)

/-- No `=` stands in the name of a piece. -/
theorem not_mem_fst_nameAndValue (piece : String) : '=' ∉ (nameAndValue piece).1.toList := by
  rw [nameAndValue]
  cases hcut : Text.cut? "=" piece with
  | none => exact Text.not_mem_of_cut?_eq_none rfl hcut
  | some cut => exact Text.not_mem_of_cut? rfl hcut

/-- The characters of the name and of the value of a piece are some of its own. -/
theorem mem_of_mem_nameAndValue {piece : String} {c : Char}
    (hc : c ∈ (nameAndValue piece).1.toList ∨ c ∈ (nameAndValue piece).2.toList) :
    c ∈ piece.toList := by
  rcases eq_nameAndValue piece with heq | ⟨heq, hempty⟩
  · rw [heq]
    simp only [String.toList_append, List.mem_append]
    exact hc.imp_left .inl
  · rw [hempty] at hc
    rw [heq]
    exact hc.resolve_right List.not_mem_nil

/-- The characters of a piece are some of those of the query string, and no ampersand is among
them. -/
theorem mem_of_mem_pieces {query piece : String} (hpiece : piece ∈ pieces query) {c : Char}
    (hc : c ∈ piece.toList) : c ∈ query.toList ∧ c ≠ '&' := by
  have hsegment : piece ∈ Text.segments "&" query := List.mem_of_mem_filter hpiece
  refine ⟨Text.mem_of_mem_segments hsegment hc, ?_⟩
  rintro rfl
  exact Text.not_mem_of_mem_segments rfl hsegment hc

/-- The pairs of two query strings with an ampersand between are those of both, however malformed
they are. -/
theorem readPairs_append (front back : String) :
    readPairs (front ++ "&" ++ back) = readPairs front ++ readPairs back := by
  rw [readPairs, pieces, Text.segments_append rfl, List.filter_append, List.map_append]
  rfl

/-! ## Written forms -/

/-- A pair as it is written in a form. -/
def writePair (pair : String × String) : String := encode pair.1 ++ "=" ++ encode pair.2

/-- A form of pairs. -/
def writeForm (pairs : List (String × String)) : String :=
  String.intercalate "&" (pairs.map writePair)

example : writeForm [("a b", "1&2"), ("", "é")] = "a+b=1%262&=%C3%A9" := by decide +kernel

/-- What is written for a pair is visible, and the reserved signs in it are those of escapes and
spaces and the one between name and value. -/
theorem visible_of_mem_writePair {pair : String × String} {c : Char}
    (hc : c ∈ (writePair pair).toList) : Visible ['%', '+', '='] c := by
  simp only [writePair, String.toList_append, List.mem_append] at hc
  rcases hc with (hname | hsign) | hvalue
  · exact (visible_of_mem_encode hname).mono (by decide)
  · obtain rfl : c = '=' := List.mem_singleton.mp hsign
    decide
  · exact (visible_of_mem_encode hvalue).mono (by decide)

/-- What is written for a form is visible, and the reserved signs in it are those of pairs and the
one between them. -/
theorem visible_of_mem_writeForm {pairs : List (String × String)} {c : Char}
    (hc : c ∈ (writeForm pairs).toList) : Visible ['%', '+', '=', '&'] c := by
  rcases Text.mem_of_mem_intercalate hc with hsign | ⟨text, htext, hc⟩
  · obtain rfl : c = '&' := List.mem_singleton.mp hsign
    decide
  · obtain ⟨pair, -, rfl⟩ := List.mem_map.mp htext
    exact (visible_of_mem_writePair hc).mono (by decide)

/-- A pair is read back from what is written for it. -/
theorem pair_writePair (p : String × String) : pair (writePair p) = p := by
  have hname : '=' ∉ (encode p.1).toList := mt visible_of_mem_encode (by decide)
  simp only [pair, writePair, nameAndValue_append hname, decode_encode]

/-- The pairs of a form are read back. -/
theorem readPairs_writeForm (pairs : List (String × String)) :
    readPairs (writeForm pairs) = pairs := by
  have htexts : ∀ text ∈ pairs.map writePair, text ≠ "" ∧ '&' ∉ text.toList := by
    refine List.forall_mem_map.mpr fun p _ => ⟨?_, mt visible_of_mem_writePair (by decide)⟩
    simp [writePair]
  have hpair : pair ∘ writePair = id := funext pair_writePair
  rw [readPairs, writeForm, pieces_intercalate htexts, List.map_map, hpair, List.map_id]

/-! ## Variables -/

/-- Adding a query string to the table of some pairs is adding its pairs behind them. -/
theorem merge_ofList (pairs : List (String × String)) (query : String) :
    merge (.ofList pairs) query = .ofList (pairs ++ readPairs query) := by
  rw [merge, NameTable.ofList, NameTable.ofList, List.foldl_append]

/-- Adding two query strings to a table is adding them as one. -/
theorem merge_append (table : NameTable .exact) (front back : String) :
    merge table (front ++ "&" ++ back) = merge (merge table front) back := by
  rw [merge, readPairs_append, List.foldl_append]
  rfl

/-- The variables of a query string are the table of its pairs. -/
theorem readForm_eq (query : String) : readForm query = .ofList (readPairs query) :=
  merge_ofList [] query

/-- The variables of two query strings are those of the first, with those of the second added. -/
theorem readForm_append (front back : String) :
    readForm (front ++ "&" ++ back) = merge (readForm front) back := merge_append .empty front back

/-- A name has the first value that one of two query strings gives it, the first before the
second. -/
theorem get?_readForm_append (front back name : String) :
    (readForm (front ++ "&" ++ back)).get? name =
      ((readPairs front).lookup name).or ((readPairs back).lookup name) := by
  rw [readForm_eq, NameTable.get?_ofList_eq_lookup, readPairs_append, List.lookup_append]

end RelationGateway.Url
