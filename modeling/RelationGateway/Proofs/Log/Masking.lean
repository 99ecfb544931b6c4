import RelationGateway.Proofs.Log.Secrets

/-!
# Masking changes nothing but secrets

A query string is masked piece by piece. A masked piece is read as the name of the piece, as it is
written, and either its own value or the mask, so masking again changes nothing, and the variables
of a masked query string have the names they had, in their order.

* `masked`: a name and the value that is logged with it;
* `mem_of_mem_maskPiece`, `mem_of_mem_maskQuery`, `mem_of_mem_maskValue`: which characters a masked
  text may hold;
* `cut?_maskPiece`, `pieces_maskQuery`: what a masked query string is made of;
* `maskQuery_maskQuery`: masking again;
* `map_fst_readForm_maskQuery`: the names of its variables;
* `firstPiece?`, `get?_readForm_maskQuery`: the values of its variables, by the first piece with
  each name;
* `maskQuery_faithful`: what the log keeps of a query string.
-/

namespace RelationGateway.Log

open Text

/-! ## Masked pieces -/

/-- A name with its value, or with the mask if the name is sensitive. -/
def masked (pair : String × String) : String × String :=
  (pair.1, if Sensitive pair.1 then mask else pair.2)

/-- A value that is masked already stays. -/
theorem masked_masked (pair : String × String) : masked (masked pair) = masked pair := by
  unfold masked
  split_ifs <;> rfl

/-- A piece is logged as its name, `=` and the value that is logged with it. -/
theorem maskPiece_eq (piece : String) :
    maskPiece piece = (masked (Url.nameAndValue piece)).1 ++ "=" ++
      (masked (Url.nameAndValue piece)).2 := by
  simp only [maskPiece, masked, isSensitive_lower_iff]

/-- At its first `=` a masked piece is cut into the name of the piece and the value that is logged
with it. -/
theorem cut?_maskPiece (piece : String) :
    cut? "=" (maskPiece piece) = some (masked (Url.nameAndValue piece)) := by
  rw [maskPiece_eq]
  exact cut?_of_not_mem rfl (Url.not_mem_fst_nameAndValue piece) _

theorem nameAndValue_maskPiece (piece : String) :
    Url.nameAndValue (maskPiece piece) = masked (Url.nameAndValue piece) := by
  rw [Url.nameAndValue, cut?_maskPiece, Option.getD_some]

theorem maskPiece_maskPiece (piece : String) : maskPiece (maskPiece piece) = maskPiece piece := by
  rw [maskPiece_eq (maskPiece piece), nameAndValue_maskPiece, masked_masked, ← maskPiece_eq]

/-! ## Characters of masked texts -/

/-- A character of a masked piece is one of the piece, or of what is put into it. -/
theorem mem_of_mem_maskPiece {piece : String} {c : Char} (hc : c ∈ (maskPiece piece).toList) :
    c ∈ piece.toList ∨ c ∈ ("=" ++ mask).toList := by
  simp only [maskPiece_eq, masked, String.toList_append, List.mem_append] at hc ⊢
  rcases hc with (hname | hsign) | hvalue
  · exact .inl (Url.mem_of_mem_nameAndValue (.inl hname))
  · exact .inr (.inl hsign)
  · split_ifs at hvalue
    · exact .inr (.inr hvalue)
    · exact .inl (Url.mem_of_mem_nameAndValue (.inr hvalue))

/-- A character of a masked query string is one of the query string, or of what is put into it. -/
theorem mem_of_mem_maskQuery {query : String} {c : Char} (hc : c ∈ (maskQuery query).toList) :
    c ∈ query.toList ∨ c ∈ ("&=" ++ mask).toList := by
  have hsigns : "&".toList ⊆ ("&=" ++ mask).toList ∧
      ("=" ++ mask).toList ⊆ ("&=" ++ mask).toList := by decide
  rcases mem_of_mem_intercalate hc with hsign | ⟨text, htext, hc⟩
  · exact .inr (hsigns.1 hsign)
  · obtain ⟨piece, hpiece, rfl⟩ := List.mem_map.mp htext
    exact (mem_of_mem_maskPiece hc).imp (fun hc => (Url.mem_of_mem_pieces hpiece hc).1)
      fun hc => hsigns.2 hc

/-- A character of a value as it is logged is one of the value, or of what is put into it. -/
theorem mem_of_mem_maskValue {name value : String} {c : Char}
    (hc : c ∈ (maskValue name value).toList) :
    c ∈ value.toList ∨ c ∈ ("&=" ++ mask ++ "...[truncated]").toList := by
  rw [String.toList_append, List.mem_append]
  unfold maskValue at hc
  split_ifs at hc
  · exact (mem_of_mem_maskQuery hc).imp_right .inl
  · exact .inr (.inl (by rw [String.toList_append]; exact List.mem_append_right _ hc))
  · unfold shorten at hc
    split_ifs at hc
    · rw [String.toList_append, String.toList_ofList, List.mem_append] at hc
      exact hc.imp List.mem_of_mem_take .inr
    · exact .inl hc

/-! ## Masked query strings -/

/-- A query string is masked piece by piece. -/
theorem pieces_maskQuery (query : String) :
    Url.pieces (maskQuery query) = (Url.pieces query).map maskPiece := by
  refine Url.pieces_intercalate (List.forall_mem_map.mpr fun piece hpiece => ⟨?_, fun hc => ?_⟩)
  · -- There is at least the `=` in it.
    simp [maskPiece_eq]
  · have hmask : '&' ∉ ("=" ++ mask).toList := by decide
    have hc : '&' ∈ piece.toList := (mem_of_mem_maskPiece hc).resolve_right hmask
    exact (Url.mem_of_mem_pieces hpiece hc).2 rfl

/-- A masked query string is masked already. -/
theorem maskQuery_maskQuery (query : String) : maskQuery (maskQuery query) = maskQuery query := by
  have hagain : maskPiece ∘ maskPiece = maskPiece := funext maskPiece_maskPiece
  rw [maskQuery, pieces_maskQuery, List.map_map, hagain]
  rfl

/-! ## Variables of masked query strings -/

/-- A masked piece is read as the same name, and as the mask if the name is sensitive as it is
written. -/
theorem pair_maskPiece (piece : String) :
    Url.pair (maskPiece piece) = ((Url.pair piece).1,
      if Sensitive (Url.nameAndValue piece).1 then mask else (Url.pair piece).2) := by
  -- The mask holds neither escapes nor plus signs, so it is read as it is.
  have hmask : Url.decode mask = mask := by decide +kernel
  simp only [Url.pair, nameAndValue_maskPiece, masked]
  split_ifs
  · rw [hmask]
  · rfl

theorem readPairs_maskQuery (query : String) :
    Url.readPairs (maskQuery query) =
      (Url.pieces query).map fun piece => Url.pair (maskPiece piece) := by
  rw [Url.readPairs, pieces_maskQuery, List.map_map]
  rfl

/-- The variables of a masked query string have the same names in the same order. -/
theorem map_fst_readForm_maskQuery (query : String) :
    (Url.readForm (maskQuery query)).toList.map (·.1) =
      (Url.readForm query).toList.map (·.1) := by
  let SameName (pair pair' : String × String) : Prop := pair.1 = pair'.1
  have hpiece (piece : String) : SameName (Url.pair (maskPiece piece)) (Url.pair piece) := by
    simp only [SameName, pair_maskPiece]
  have hsame : List.Forall₂ SameName (Url.readPairs (maskQuery query)) (Url.readPairs query) := by
    rw [readPairs_maskQuery, Url.readPairs, List.forall₂_map_left_iff, List.forall₂_map_right_iff]
    exact List.forall₂_same.mpr fun piece _ => hpiece piece
  rw [Url.readForm_eq, Url.readForm_eq, NameTable.toList_ofList, NameTable.toList_ofList,
    ← List.forall₂_eq_eq_eq, List.forall₂_map_left_iff, List.forall₂_map_right_iff]
  -- Which pairs are the first of their names depends on the names alone.
  exact NameTable.forall₂_firsts (fun _ _ h => h) hsame

/-- The first piece of a query string that is read as a name. -/
def firstPiece? (query name : String) : Option String :=
  (Url.pieces query).find? fun piece => (Url.pair piece).1 == name

/-- A variable of a query string has the value of the first piece with its name. -/
theorem get?_readForm (query name : String) :
    (Url.readForm query).get? name =
      (firstPiece? query name).map fun piece => (Url.pair piece).2 := by
  rw [Url.readForm_eq, NameTable.get?_ofList, Url.readPairs, List.find?_map, Option.map_map]
  rfl

/-- The first piece with a name is still the first one when it is masked. -/
theorem firstPiece?_maskQuery (query name : String) :
    firstPiece? (maskQuery query) name = (firstPiece? query name).map maskPiece := by
  -- A masked piece is read as the name of the piece, so the same ones are passed over.
  have hname : (fun piece => (Url.pair piece).1 == name) ∘ maskPiece =
      fun piece => (Url.pair piece).1 == name := by
    funext piece
    rw [Function.comp_apply, pair_maskPiece]
  rw [firstPiece?, pieces_maskQuery, List.find?_map, hname]
  rfl

/-- A variable of a masked query string has the value that it has in the query string, or the mask
if the first piece with its name is written with a sensitive name. -/
theorem get?_readForm_maskQuery {query name piece : String}
    (hfirst : firstPiece? query name = some piece) :
    (Url.readForm (maskQuery query)).get? name =
      if Sensitive (Url.nameAndValue piece).1 then some mask
      else (Url.readForm query).get? name := by
  rw [get?_readForm, get?_readForm, firstPiece?_maskQuery, hfirst, Option.map_some,
    Option.map_some, Option.map_some, pair_maskPiece]
  exact apply_ite some _ _ _

/-- Masking a query string changes nothing but masked values. Its pieces are cut into the same
names, in the same order, each with its own value or, if the name as it is written is sensitive,
with the mask. Masking again changes nothing. The variables have the same names in the same order,
and each has the value it had unless the first piece with its name is masked. -/
theorem maskQuery_faithful (query : String) :
    (Url.pieces (maskQuery query)).map (cut? "=") =
        (Url.pieces query).map (fun piece => some (masked (Url.nameAndValue piece))) ∧
      maskQuery (maskQuery query) = maskQuery query ∧
      (Url.readForm (maskQuery query)).toList.map (·.1) =
        (Url.readForm query).toList.map (·.1) ∧
      ∀ name piece, firstPiece? query name = some piece →
        (Url.readForm (maskQuery query)).get? name =
          if Sensitive (Url.nameAndValue piece).1 then some mask
          else (Url.readForm query).get? name := by
  refine ⟨?_, maskQuery_maskQuery query, map_fst_readForm_maskQuery query,
    fun _ _ hfirst => get?_readForm_maskQuery hfirst⟩
  rw [pieces_maskQuery, List.map_map]
  exact List.map_congr_left fun piece _ => cut?_maskPiece piece

/-- A query string with empty pieces, a name that is written in two ways, a value with an `=` and
a piece without. -/
def unevenQuery : String := "&a=1=2&&%6Bey=x&key=y&Token"

/-- The name that is written with an escape is not masked, and its piece is the first to be read. -/
theorem maskQuery_faithful_unevenQuery :
    maskQuery unevenQuery = "a=1=2&%6Bey=x&key=***redacted***&Token=***redacted***" ∧
      firstPiece? unevenQuery "key" = some "%6Bey=x" ∧
      (Url.readForm (maskQuery unevenQuery)).get? "key" = (Url.readForm unevenQuery).get? "key" ∧
      firstPiece? unevenQuery "Token" = some "Token" ∧
      (Url.readForm (maskQuery unevenQuery)).get? "Token" = some mask := by
  have hkey : firstPiece? unevenQuery "key" = some "%6Bey=x" := by decide +kernel
  have htoken : firstPiece? unevenQuery "Token" = some "Token" := by decide +kernel
  have hplain : ¬ Sensitive (Url.nameAndValue "%6Bey=x").1 := by decide
  have hsensitive : Sensitive (Url.nameAndValue "Token").1 := by decide
  obtain ⟨-, -, -, hvalue⟩ := maskQuery_faithful unevenQuery
  refine ⟨by decide +kernel, hkey, ?_, htoken, ?_⟩
  · rw [hvalue "key" "%6Bey=x" hkey, if_neg hplain]
  · rw [hvalue "Token" "Token" htoken, if_pos hsensitive]

end RelationGateway.Log
