import RelationGateway.Proofs.Cgi.Environment

/-!
# Headers are found under their names

The headers among variables are found by the names that the variables carry, with hyphens for
underscores and in any case of the letters. Of the variables with one name the first counts. Each
name is listed once, in a spelling that does not change when a variable is made of it again.

* `carried?`: the name of the header that a variable carries, in the letters of the variable;
* `get?_headers`: a header has the value of the first variable that carries its name;
* `map_lower_headers`: the headers are listed in the order in which their names first come;
* `IsCapitalised`, `Spelled`: how the names are spelled;
* `headerName?_translated`: a name that is translated again stays as it is spelled;
* `headers_translated`: the headers are the translation of the variables.
-/

namespace RelationGateway.Text

variable {s t : String} {sign : Char}

/-- Only letters change into small ones, so what is no letter comes from itself alone. -/
theorem toLower_eq_iff {c : Char} (hsign : ¬ sign.isAlpha) : c.toLower = sign ↔ c = sign := by
  have hkept {d : Char} (hd : ¬ d.isAlpha) : d.toLower = d :=
    toLower_eq_of_not_isUpper fun hupper => hd (Bool.or_eq_true_iff.mpr (.inl hupper))
  constructor
  · rintro rfl
    rw [isAlpha_toLower] at hsign
    exact (hkept hsign).symm
  · rintro rfl
    exact hkept hsign

/-- A sign that is no letter stands in a text exactly if it stands there in small letters. -/
theorem mem_lower_iff (hsign : ¬ sign.isAlpha) : sign ∈ (lower s).toList ↔ sign ∈ s.toList := by
  rw [lower, String.toList_map, List.mem_map]
  simp only [toLower_eq_iff hsign, exists_eq_right]

/-- Texts that differ in the case of letters hold the same signs. -/
theorem mem_iff_of_lower_eq (h : lower s = lower t) (hsign : ¬ sign.isAlpha) :
    sign ∈ s.toList ↔ sign ∈ t.toList := by
  rw [← mem_lower_iff hsign, h, mem_lower_iff hsign]

end RelationGateway.Text

namespace RelationGateway.Cgi

variable {name header : String}

/-! ## The names that variables carry -/

/-- The name of the header that a variable carries, in the letters of the variable: the name behind
the mark of headers, with hyphens for underscores. -/
def carried? (name : String) : Option String :=
  (Text.dropStart? "HTTP_" name).map (Text.substitute '_' '-')

/-- A capitalised word differs from the word in the case of letters alone. -/
theorem lower_capitalised (word : String) : Text.lower (capitalised word) = Text.lower word := by
  rw [Text.lower_eq_lower_iff, capitalised]
  split
  next hword => rw [hword]; rfl
  next c rest hword =>
    rw [hword, String.toList_ofList, List.map_cons, List.map_cons, List.map_map,
      Text.toLower_toUpper]
    refine congrArg (c.toLower :: ·) (List.map_congr_left fun d _ => ?_)
    exact Text.toLower_toLower d

/-- The name of a header differs from the one that the variable carries in the case of letters
alone. -/
theorem map_lower_headerName? (name : String) :
    (headerName? name).map Text.lower = (carried? name).map Text.lower := by
  rw [headerName?, carried?, Option.map_map, Option.map_map]
  refine Option.map_congr fun rest _ => ?_
  dsimp only [Function.comp_apply]
  -- Both names are joined of the same words, and only in one of them these are capitalised.
  have hjoined : Text.substitute '_' '-' rest = String.intercalate "-" (Text.segments "_" rest) :=
    Text.substitute_eq_intercalate "_" "-" rfl rfl rest
  rw [hjoined, Text.lower, Text.lower, Text.map_intercalate, Text.map_intercalate, List.map_map]
  exact congrArg _ (List.map_congr_left fun word _ => lower_capitalised word)

/-- No variable carries a name with an underscore. -/
theorem not_mem_carried? {carried : String} (h : carried? name = some carried) :
    '_' ∉ carried.toList := by
  obtain ⟨rest, -, rfl⟩ := Option.map_eq_some_iff.mp h
  rw [Text.substitute, String.toList_map, List.mem_map]
  rintro ⟨c, -, hc⟩
  split at hc <;> simp_all

/-- A header has the value of the first variable that carries its name, whatever the case. -/
theorem get?_headers (vars : List (String × String)) (header : String) :
    (headers vars).get? header =
      (vars.find? fun v => (carried? v.1).any (Text.sameIgnoringCase · header)).map (·.2) := by
  have hcarries (v : String × String) :
      (header? v).any (fun pair => Text.lower pair.1 == Text.lower header) =
        (carried? v.1).any (Text.sameIgnoringCase · header) := by
    have hany (name? : Option String) : name?.any (Text.sameIgnoringCase · header) =
        (name?.map Text.lower).any (· == Text.lower header) := by cases name? <;> rfl
    rw [hany, ← map_lower_headerName?, ← hany, header?, Option.any_map]
    rfl
  rw [headers, NameTable.get?_ofList, List.find?_filterMap]
  simp only [NameRule.key, hcarries]
  cases hfind : vars.find? fun v => (carried? v.1).any (Text.sameIgnoringCase · header) with
  | none => rfl
  | some v =>
    -- The variable that is found carries a name, so it makes a header, and that has its value.
    have hfound := List.find?_some hfind
    rw [← hcarries] at hfound
    obtain ⟨pair, hpair, -⟩ := (Option.any_eq_true _ _).mp hfound
    obtain ⟨name, -, rfl⟩ := Option.map_eq_some_iff.mp hpair
    rw [Option.bind_some, hpair]
    rfl

/-- The headers are listed in the order in which their names first come, each once. -/
theorem map_lower_headers (vars : List (String × String)) :
    (headers vars).toList.map (Text.lower ·.1) =
      ((vars.filterMap (carried? ·.1)).map Text.lower).eraseDups := by
  have hkeys : (headers vars).toList.map (Text.lower ·.1) =
      ((vars.filterMap header?).map (Text.lower ·.1)).eraseDups :=
    @NameTable.map_key_ofList .ignoringCase _
  have hname (v : String × String) : (header? v).map (fun pair => Text.lower pair.1) =
      (carried? v.1).map Text.lower := by
    rw [← map_lower_headerName?, header?, Option.map_map]
    rfl
  rw [hkeys, List.map_filterMap, List.map_filterMap]
  simp only [hname]

/-! ## How names are spelled -/

/-- The word begins with no small letter and goes on with no capital. -/
structure IsCapitalised (word : String) : Prop where
  /-- The first character is no small letter. -/
  head : ∀ c ∈ word.toList.head?, ¬ c.isLower
  /-- The other ones are no capitals. -/
  tail : ∀ c ∈ word.toList.tail, ¬ c.isUpper

/-- Every part of the name, between its hyphens, is capitalised. -/
def Spelled (name : String) : Prop := ∀ part ∈ Text.segments "-" name, IsCapitalised part

theorem isCapitalised_capitalised (word : String) : IsCapitalised (capitalised word) := by
  unfold capitalised
  split
  next => exact ⟨by simp, by simp⟩
  next c rest hword =>
    constructor
    · rw [String.toList_ofList, List.head?_cons]
      rintro _ ⟨⟩
      exact Text.not_isLower_toUpper c
    · rw [String.toList_ofList, List.tail_cons]
      intro d hd
      obtain ⟨e, -, rfl⟩ := List.mem_map.mp hd
      exact Text.not_isUpper_toLower e

/-- A capitalised word stays when it is capitalised. -/
theorem IsCapitalised.capitalised_eq {word : String} (h : IsCapitalised word) :
    capitalised word = word := by
  obtain ⟨hhead, htail⟩ := h
  unfold capitalised
  split
  next hword => exact (String.toList_eq_nil_iff.mp hword).symm
  next c rest hword =>
    rw [hword] at hhead htail
    have hc : c.toUpper = c := Text.toUpper_eq_of_not_isLower (hhead c rfl)
    have hrest : rest.map Char.toLower = rest :=
      (List.map_congr_left fun d hd => Text.toLower_eq_of_not_isUpper (htail d hd)).trans
        (List.map_id _)
    rw [hc, hrest, ← hword, String.ofList_toList]

/-- The name of a variable is translated word by word, and no word holds a sign of either kind. -/
theorem exists_words (hname : ∀ c ∈ name.toList, inName c) (h : headerName? name = some header) :
    ∃ words : List String, words ≠ [] ∧
      (∀ word ∈ words, '_' ∉ word.toList ∧ '-' ∉ word.toList) ∧
      header = String.intercalate "-" (words.map capitalised) := by
  obtain ⟨rest, hrest, rfl⟩ := Option.map_eq_some_iff.mp h
  have hword : ∀ word ∈ Text.segments "_" rest, ∀ c ∈ word.toList, inName c := by
    intro word hword c hc
    refine hname c ?_
    rw [Text.dropStart?_eq_some_iff.mp hrest, String.toList_append]
    exact List.mem_append_right _ (Text.mem_of_mem_segments hword hc)
  obtain ⟨hne, hunderscore, -⟩ := (Text.segments_singleton_eq_iff rfl).mp
    (rfl : Text.segments "_" rest = _)
  refine ⟨Text.segments "_" rest, hne, fun word hmem => ⟨hunderscore word hmem, ?_⟩, rfl⟩
  intro hhyphen
  exact absurd (hword word hmem '-' hhyphen) (by decide)

/-- Capitalised words are read back between signs that none of them holds. -/
theorem segments_capitalised {delimiter : String} {sign : Char}
    (hdelimiter : delimiter.toList = [sign]) (hsign : ¬ sign.isAlpha) {words : List String}
    (hwords : words ≠ []) (hfree : ∀ word ∈ words, sign ∉ word.toList) :
    Text.segments delimiter (String.intercalate delimiter (words.map capitalised)) =
      words.map capitalised := by
  refine (Text.segments_singleton_eq_iff hdelimiter).mpr ⟨by simpa using hwords, ?_, rfl⟩
  intro part hpart
  obtain ⟨word, hword, rfl⟩ := List.mem_map.mp hpart
  rw [Text.mem_iff_of_lower_eq (lower_capitalised word) hsign]
  exact hfree word hword

/-- The name of a header is well spelled. -/
theorem spelled_of_headerName? (hname : ∀ c ∈ name.toList, inName c)
    (h : headerName? name = some header) : Spelled header := by
  obtain ⟨words, hwords, hfree, rfl⟩ := exists_words hname h
  intro part hpart
  rw [segments_capitalised rfl (by decide) hwords fun word hword => (hfree word hword).2] at hpart
  obtain ⟨word, -, rfl⟩ := List.mem_map.mp hpart
  exact isCapitalised_capitalised word

/-- The variable that is made of the name of a header carries that name, and in that spelling. -/
theorem headerName?_translated (hname : ∀ c ∈ name.toList, inName c)
    (h : headerName? name = some header) :
    headerName? ("HTTP_" ++ Text.substitute '-' '_' header) = some header := by
  obtain ⟨words, hwords, hfree, rfl⟩ := exists_words hname h
  -- The words hold neither sign, so they are the parts of the name and those of the variable.
  have hunder : Text.substitute '-' '_' (String.intercalate "-" (words.map capitalised)) =
      String.intercalate "_" (words.map capitalised) := by
    have hparts : Text.segments "-" (String.intercalate "-" (words.map capitalised)) =
        words.map capitalised :=
      segments_capitalised rfl (by decide) hwords fun word hword => (hfree word hword).2
    exact (Text.substitute_eq_intercalate "-" "_" rfl rfl _).trans (congrArg _ hparts)
  have hagain : (words.map capitalised).map capitalised = words.map capitalised := by
    rw [List.map_map]
    exact List.map_congr_left fun word _ => (isCapitalised_capitalised word).capitalised_eq
  rw [headerName?, hunder, Text.dropStart?_eq_some_iff.mpr rfl, Option.map_some,
    segments_capitalised rfl (by decide) hwords fun word hword => (hfree word hword).1, hagain]

/-! ## The headers among variables -/

/-- The names of the variables of a block hold nothing but letters, digits and underscores. -/
theorem inName_of_mem_read {block : String} {v : String × String} (hv : v ∈ read block) :
    ∀ c ∈ v.1.toList, inName c := by
  obtain ⟨line, -, hline⟩ := List.mem_filterMap.mp hv
  obtain ⟨-, hvalid⟩ := Option.filter_eq_some_iff.mp hline
  obtain ⟨c, rest, hname, hall⟩ := exists_of_isVariableName hvalid
  rwa [hname]

/-- The headers among variables are the translation of the names of these. A name finds the value
of the first variable that carries it in whatever letters, and no name with an underscore finds any.
The headers are listed in the order in which their names first come, each once, and each in a
spelling that translating it again does not change. -/
theorem headers_translated (vars : List (String × String))
    (hvars : ∀ v ∈ vars, ∀ c ∈ v.1.toList, inName c) :
    (∀ header, (headers vars).get? header =
        (vars.find? fun v => (carried? v.1).any (Text.sameIgnoringCase · header)).map (·.2)) ∧
      (∀ header, '_' ∈ header.toList → (headers vars).get? header = none) ∧
      (headers vars).toList.map (Text.lower ·.1) =
        ((vars.filterMap (carried? ·.1)).map Text.lower).eraseDups ∧
      ∀ pair ∈ (headers vars).toList, Spelled pair.1 ∧
        headerName? ("HTTP_" ++ Text.substitute '-' '_' pair.1) = some pair.1 := by
  refine ⟨get?_headers vars, fun header hheader => ?_, map_lower_headers vars,
    fun pair hpair => ?_⟩
  · -- The underscore would stand in the name that a variable carries.
    have hnone : vars.find? (fun v => (carried? v.1).any (Text.sameIgnoringCase · header)) =
        none := by
      rw [List.find?_eq_none]
      intro v _ hcarries
      obtain ⟨carried, hcarried, hsame⟩ := (Option.any_eq_true _ _).mp hcarries
      exact not_mem_carried? hcarried
        ((Text.mem_iff_of_lower_eq (beq_iff_eq.mp hsame) (by decide)).mpr hheader)
    rw [get?_headers, hnone, Option.map_none]
  · rw [headers, NameTable.toList_ofList] at hpair
    have hmem := (NameTable.firsts_sublist _ _).subset hpair
    obtain ⟨v, hv, hheader⟩ := List.mem_filterMap.mp hmem
    obtain ⟨name, hname, rfl⟩ := Option.map_eq_some_iff.mp hheader
    exact ⟨spelled_of_headerName? (hvars v hv) hname, headerName?_translated (hvars v hv) hname⟩

/-- A block with two names for one header, and with a name of empty words and a digit. -/
def crossedBlock : String := banner ++ "\nHTTP_X_USER=first\nHTTP__9B_=odd\nHTTP_x_User=second"

/-- The first of two names for a header counts, and a name of empty words is a name. -/
theorem headers_translated_crossed :
    (∀ v ∈ read crossedBlock, ∀ c ∈ v.1.toList, inName c) ∧
      (headers (read crossedBlock)).get? "x-user" = some "first" ∧
      (headers (read crossedBlock)).get? "X_User" = none ∧
      (headers (read crossedBlock)).toList.map (Text.lower ·.1) = ["x-user", "-9b-"] := by
  have hvars : ∀ v ∈ read crossedBlock, ∀ c ∈ v.1.toList, inName c :=
    fun v hv => inName_of_mem_read hv
  have hread : read crossedBlock =
      [("HTTP_X_USER", "first"), ("HTTP__9B_", "odd"), ("HTTP_x_User", "second")] := by decide
  -- Mapping the characters of a text is opened, because it does not compute as it is.
  have hmap (f : Char → Char) : String.map f = fun s => String.ofList (s.toList.map f) := by
    funext s
    rw [← String.toList_map, String.ofList_toList]
  have hlower : Text.lower = fun s => String.ofList (s.toList.map Char.toLower) :=
    hmap Char.toLower
  have hsubstitute : Text.substitute '_' '-' =
      fun s => String.ofList (s.toList.map fun c => if c == '_' then '-' else c) := hmap _
  have hcarried : ((read crossedBlock).filterMap (carried? ·.1)).map Text.lower =
      ["x-user", "-9b-", "x-user"] := by
    simp only [hread, carried?, hlower, hsubstitute]
    decide
  obtain ⟨hget, hunderscore, hlisted, -⟩ := headers_translated (read crossedBlock) hvars
  refine ⟨hvars, (hget _).trans ?_, hunderscore _ (by decide), hlisted.trans ?_⟩
  · simp only [hread, carried?, Text.sameIgnoringCase, hlower, hsubstitute]
    decide
  · rw [hcarried]
    decide

end RelationGateway.Cgi
