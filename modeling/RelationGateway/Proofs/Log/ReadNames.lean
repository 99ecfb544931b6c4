import RelationGateway.Proofs.Log.Masking
import RelationGateway.Proofs.Url.Letters

/-!
# Names as they are read and as they are masked

Whether the value of a query variable is masked is told by its name as it is written, and the name
of the variable is what is read of it. A sensitive name is taken for such in both forms, unless
letters of it are written as escapes, which the log does not read.

* `sensitive_of_decode`: a name is sensitive as it is written if it is as it is read;
* `masked_of_read_sensitive`: the values of variables with sensitive names are not logged;
* `maskQuery_escapedLetter`: with an escaped letter the value is logged.
-/

namespace RelationGateway.Log

open Text

/-! ## Names -/

/-- The parts of names that suggest secrets are words of letters. -/
theorem isLetter_sensitiveParts :
    ∀ part ∈ sensitiveParts, ∀ c ∈ part.toList, IsLetter c.toNat := by
  have hall : ∀ part ∈ sensitiveParts, part.toList.all (IsLetter ·.toNat) := by decide
  exact fun part hpart c hc => of_decide_eq_true (List.all_eq_true.mp (hall part hpart) c hc)

/-- A name that is sensitive as it is read is sensitive as it is written, if no letter of it is
written as an escape. -/
theorem sensitive_of_decode {name : String} (h : Sensitive (Url.decode name))
    (hplain : ¬ Url.EscapesLetter name) : Sensitive name := by
  obtain ⟨part, hpart, hread⟩ := h
  have hletters := isLetter_sensitiveParts part hpart
  exact ⟨part, hpart, (Url.wordsFrom_decode hplain).infix_map_toLower hletters hread⟩

/-- Two pieces of a query string are the same, but for their values if their name is read as a
sensitive one and no letter of it is written as an escape. -/
inductive SameReadPiece : String → String → Prop
  | refl (piece : String) : SameReadPiece piece piece
  | secret {name : String} (hname : Sensitive (Url.decode name))
      (hplain : ¬ Url.EscapesLetter name) (hcut : '=' ∉ name.toList) (value value' : String) :
      SameReadPiece (name ++ "=" ++ value) (name ++ "=" ++ value')

theorem SameReadPiece.samePiece {piece piece' : String} (h : SameReadPiece piece piece') :
    SamePiece piece piece' := by
  cases h with
  | refl => exact .refl _
  | secret hname hplain hcut value value' =>
    exact .secret (sensitive_of_decode hname hplain) hcut value value'

/-- The values of query variables whose names are read as sensitive ones are not logged, if no
letters of the names are written as escapes. A query string is masked piece by piece, and of the
piece of such a variable only the written name is kept. If two requests differ only in the values
of such variables, the same is logged of a failure of the one and of the other. -/
theorem masked_of_read_sensitive (query : String) :
    Url.pieces (maskQuery query) = (Url.pieces query).map maskPiece ∧
    (∀ piece ∈ Url.pieces query, Sensitive (Url.pair piece).1 →
      ¬ Url.EscapesLetter (Url.nameAndValue piece).1 →
        maskPiece piece = (Url.nameAndValue piece).1 ++ "=" ++ mask) ∧
    ∀ (front back : List (String × String)) (path query' origin : String) (failure : Failure),
      (∀ pair ∈ front ++ back, Cgi.isVariableName pair.1) →
      (∀ pair ∈ front ++ back, pair.1 = "REQUEST_METHOD" → '?' ∉ pair.2.toList) →
      '?' ∉ path.toList → (∀ text ∈ [path, query, query'], '\n' ∉ text.toList) →
      List.Forall₂ SameReadPiece (segments "&" query) (segments "&" query') →
      origin ∈ ["", "request decoding: ", "startup: "] →
      logged failure origin
          (Cgi.write (front ++ ("REQUEST_URI", path ++ "?" ++ query) :: back)) =
        logged failure origin
          (Cgi.write (front ++ ("REQUEST_URI", path ++ "?" ++ query') :: back)) := by
  refine ⟨pieces_maskQuery query, fun piece _ hread hplain => ?_, ?_⟩
  · exact maskPiece_of_sensitive (sensitive_of_decode hread hplain)
  · intro front back path query' origin failure hvalid hmethod hpath hlines hpieces horigin
    obtain ⟨hlinePath, hlines⟩ := List.forall_mem_cons.mp hlines
    have hurl : ∀ q ∈ [query, query'], '\n' ∉ (path ++ "?" ++ q).toList := by
      intro q hq
      simp only [String.toList_append, List.mem_append, not_or]
      exact ⟨⟨hlinePath, by decide⟩, hlines q hq⟩
    -- Only the URLs differ, and they are the same but for secrets.
    have hsame : List.Forall₂ SameVariable
        (front ++ ("REQUEST_URI", path ++ "?" ++ query) :: back)
        (front ++ ("REQUEST_URI", path ++ "?" ++ query') :: back) := by
      have hvariable := SameVariable.url (hurl query (by simp)) (hurl query' (by simp))
        (.query hpath (hpieces.imp fun _ _ h => h.samePiece))
      have hother (vars : List (String × String)) : List.Forall₂ SameVariable vars vars :=
        List.forall₂_same.mpr fun pair _ => .refl pair
      exact List.rel_append (hother front) (.cons hvariable (hother back))
    have hvars {p : String × String → Prop} (hother : ∀ pair ∈ front ++ back, p pair)
        (hurl : p ("REQUEST_URI", path ++ "?" ++ query)) :
        ∀ pair ∈ front ++ ("REQUEST_URI", path ++ "?" ++ query) :: back, p pair := by
      obtain ⟨hfront, hback⟩ := List.forall_mem_append.mp hother
      exact List.forall_mem_append.mpr ⟨hfront, List.forall_mem_cons.mpr ⟨hurl, hback⟩⟩
    have hname : Cgi.isVariableName "REQUEST_URI" ∧ "REQUEST_URI" ≠ "REQUEST_METHOD" := by decide
    have hvalid := hvars hvalid hname.1
    have hmethod := hvars hmethod fun hmethod => absurd hmethod hname.2
    exact logged_eq_of_read (forall₂_read_write hvalid hsame)
      (not_mem_method_identify_write hvalid hmethod) rfl rfl rfl (not_mem_origin origin horigin)

/-- Other characters than letters may be escaped. -/
theorem masked_of_read_sensitive_brackets :
    Url.pair "%5BToken%5D=x" = ("[Token]", "x") ∧
      maskPiece "%5BToken%5D=x" = "%5BToken%5D=***redacted***" ∧
      logged (.internal "broken") "startup: " (Cgi.write [("REQUEST_METHOD", "GET"),
          ("REQUEST_URI", "/a?b=1&%5BToken%5D=x"), ("REMOTE_ADDR", "::1")]) =
        logged (.internal "broken") "startup: " (Cgi.write [("REQUEST_METHOD", "GET"),
          ("REQUEST_URI", "/a?b=1&%5BToken%5D=longer"), ("REMOTE_ADDR", "::1")]) := by
  have hpair : Url.pair "%5BToken%5D=x" = ("[Token]", "x") := by decide +kernel
  have hname : (Url.nameAndValue "%5BToken%5D=x").1 = "%5BToken%5D" := by decide
  have hplain : ¬ Url.EscapesLetter "%5BToken%5D" := by decide +kernel
  have hsensitive : Sensitive "[Token]" := by decide
  have hread : Sensitive (Url.decode "%5BToken%5D") := by decide +kernel
  obtain ⟨-, hmasked, hlogged⟩ := masked_of_read_sensitive "b=1&%5BToken%5D=x"
  refine ⟨hpair, ?_, ?_⟩
  · have hpieces : "%5BToken%5D=x" ∈ Url.pieces "b=1&%5BToken%5D=x" := by decide
    rw [hmasked _ hpieces (by rwa [hpair]) (by rwa [hname]), hname]
    rfl
  · have hsame : List.Forall₂ SameReadPiece (segments "&" "b=1&%5BToken%5D=x")
        (segments "&" "b=1&%5BToken%5D=longer") :=
      .cons (.refl "b=1") (.cons (.secret hread hplain (by decide) "x" "longer") .nil)
    exact hlogged [("REQUEST_METHOD", "GET")] [("REMOTE_ADDR", "::1")] "/a"
      "b=1&%5BToken%5D=longer" "startup: " (.internal "broken") (by decide) (by decide) (by decide)
      (by decide) hsame (by decide)

/-- A name with an escaped letter is read as a sensitive one, but it is not taken for such. -/
theorem maskQuery_escapedLetter :
    Url.pieces "%74oken=x" = ["%74oken=x"] ∧ Url.pair "%74oken=x" = ("token", "x") ∧
      Sensitive "token" ∧ maskQuery "%74oken=x" = "%74oken=x" := by
  decide +kernel

end RelationGateway.Log
