import RelationGateway.Proofs.Delimited
import RelationGateway.Proofs.Url.Percent
import RelationGateway.Url.Path

/-!
# Paths are read back

A path is written as its texts behind slashes, each with escapes. It is read as the segments that
were written, each of which stands for its text, if no text is empty.

* `pathSegments_join`: the segments of a path are what stands between its slashes;
* `writePath`, `pathSegments_writePath`: the segments of a written path.
-/

namespace RelationGateway.Url

/-- Pieces between slashes neither begin nor end with one, if they hold none and none is empty. -/
theorem ends_intercalate {pieces : List String} (hne : pieces ≠ [])
    (hpieces : ∀ piece ∈ pieces, piece ≠ "" ∧ '/' ∉ piece.toList) :
    let joined := String.intercalate "/" pieces
    joined ≠ "" ∧ (∀ c ∈ joined.toList.head?, c ≠ '/') ∧ ∀ c ∈ joined.toList.getLast?, c ≠ '/' := by
  have hother {piece : String} (hpiece : '/' ∉ piece.toList) {c : Char} (hc : c ∈ piece.toList) :
      c ≠ '/' := fun heq => hpiece (heq ▸ hc)
  induction pieces with
  | nil => exact absurd rfl hne
  | cons first rest ih =>
    obtain ⟨⟨hfirst, hslash⟩, hrest⟩ := List.forall_mem_cons.mp hpieces
    have hfirst' : first.toList ≠ [] := mt String.toList_eq_nil_iff.mp hfirst
    by_cases hnil : rest = []
    · rw [hnil, String.intercalate_singleton]
      exact ⟨hfirst, fun c hc => hother hslash (List.mem_of_mem_head? hc),
        fun c hc => hother hslash (List.mem_of_mem_getLast? hc)⟩
    · -- The first character is that of the first piece, the last one that of the others.
      obtain ⟨hjoined, -, hlast⟩ := ih hnil hrest
      have hjoined' := mt String.toList_eq_nil_iff.mp hjoined
      dsimp only
      rw [String.intercalate_cons_of_ne_nil hnil, String.toList_append, String.toList_append,
        List.getLast?_append_of_ne_nil _ hjoined', List.append_assoc,
        List.head?_append_of_ne_nil _ hfirst']
      exact ⟨by simp, fun c hc => hother hslash (List.mem_of_mem_head? hc), hlast⟩

/-- The segments of a path are what stands between its slashes. -/
theorem pathSegments_join {pieces : List String} (hne : pieces ≠ [])
    (hpieces : ∀ piece ∈ pieces, piece ≠ "" ∧ '/' ∉ piece.toList) :
    pathSegments ("/" ++ String.intercalate "/" pieces) = pieces := by
  obtain ⟨hjoined, hhead, hlast⟩ := ends_intercalate hne hpieces
  have htrim : Text.trimBy (· == '/') ("/" ++ String.intercalate "/" pieces) =
      String.intercalate "/" pieces := by
    rw [Text.trimBy_append_of_pos rfl rfl]
    exact Text.trimBy_eq_self (fun c hc => by simpa using hhead c hc)
      fun c hc => by simpa using hlast c hc
  have hsegments : Text.segments "/" (String.intercalate "/" pieces) = pieces :=
    (Text.segments_singleton_eq_iff rfl).mpr
      ⟨hne, fun piece hpiece => (hpieces piece hpiece).2, rfl⟩
  rw [pathSegments, htrim, hsegments]
  exact if_neg (by simpa using hjoined)

/-! ## Written paths -/

/-- The path whose segments stand for the given texts. -/
def writePath (texts : List String) : String :=
  "/" ++ String.intercalate "/" (texts.map encodeSegment)

example : writePath ["s.n", "a b/?"] = "/s.n/a%20b%2F%3F" := by decide +kernel

/-- What is written for a path is visible, and the reserved signs in it are slashes and those of
escapes. -/
theorem visible_of_mem_writePath {texts : List String} {c : Char}
    (hc : c ∈ (writePath texts).toList) : Visible ['%', '/'] c := by
  have hslash : Visible ['%', '/'] '/' := by decide
  rw [writePath, String.toList_append, List.mem_append] at hc
  rcases hc with hc | hc
  · rwa [List.mem_singleton.mp hc]
  · rcases Text.mem_of_mem_intercalate hc with hc | ⟨written, hwritten, hc⟩
    · rwa [List.mem_singleton.mp hc]
    · obtain ⟨text, -, rfl⟩ := List.mem_map.mp hwritten
      exact (visible_of_mem_encodeSegment hc).mono (by decide)

/-- Only the empty text is written as an empty segment. -/
theorem encodeSegment_ne_empty {text : String} (h : text ≠ "") : encodeSegment text ≠ "" := by
  intro hempty
  have hdecoded := decodeSegment_encodeSegment text
  rw [hempty] at hdecoded
  exact h hdecoded.symm

/-- The segments of a written path are those of its texts. -/
theorem pathSegments_writePath {texts : List String} (hne : texts ≠ [])
    (htexts : ∀ text ∈ texts, text ≠ "") :
    pathSegments (writePath texts) = texts.map encodeSegment := by
  refine pathSegments_join (by simpa using hne) (List.forall_mem_map.mpr fun text htext => ?_)
  exact ⟨encodeSegment_ne_empty (htexts text htext), mt visible_of_mem_encodeSegment (by decide)⟩

end RelationGateway.Url
