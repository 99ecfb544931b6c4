import Mathlib.Data.List.Basic
import Mathlib.Data.List.Infix
import RelationGateway.Delimited

/-!
# Cuts and pieces

What cutting a list does, said without its accumulators. A delimiter is cut at its leftmost
occurrence, and the pieces of a list are what repeated cutting leaves.

* `cut?_eq_some_iff`, `cut?_eq_none_iff`: a cut is made exactly at the first occurrence;
* `segments_eq`: the pieces of a list are those of repeated cutting;
* `segments_intercalate`: pieces without the first element of the delimiter are recovered from
  their join;
* `segments_singleton_eq_iff`: with a delimiter of one element the pieces are the only list
  without it that joins to the list;
* `segments_append_cons`: the pieces in front of a delimiter and those behind it;
* `not_infix_intercalate`, `cut?_of_not_isInfix`: where a delimiter without line breaks occurs;
* `cut?_blankLine`: lines joined by line breaks end at the first empty line.
-/

namespace RelationGateway.Delimited

/-- The list is `before`, the delimiter and `after`, and the delimiter occurs no earlier. -/
structure FirstCut {α : Type} (delimiter list before after : List α) : Prop where
  /-- The delimiter stands between the two. -/
  eq_append : list = before ++ delimiter ++ after
  /-- No occurrence has less before it. -/
  length_le : ∀ before' after', list = before' ++ delimiter ++ after' →
    before.length ≤ before'.length

variable {α : Type} [BEq α] {delimiter list before after : List α} {x : α}

/-! ## Cutting once -/

/-- What was passed over before a cut stands before what is passed over later. -/
private theorem cutAfter_eq_map (delimiter before list : List α) :
    cutAfter delimiter before list =
      (cutAfter delimiter [] list).map fun cut => (before.reverse ++ cut.1, cut.2) := by
  induction list generalizing before with
  | nil => rfl
  | cons y rest ih =>
    rw [cutAfter, cutAfter]
    split
    · simp
    · rw [ih (y :: before), ih [y], Option.map_map]
      simp [Function.comp_def]

/-- Nothing is cut off the empty list. -/
@[simp]
theorem cut?_empty (delimiter : List α) : cut? delimiter [] = none := by
  unfold cut?
  split <;> rfl

/-- A list that begins with the delimiter is cut at its start; any other list is cut where its
tail is. -/
theorem cut?_cons (hdelimiter : delimiter ≠ []) (y : α) (list : List α) :
    cut? delimiter (y :: list) =
      if delimiter.isPrefixOf (y :: list) then some ([], (y :: list).drop delimiter.length)
      else (cut? delimiter list).map fun cut => (y :: cut.1, cut.2) := by
  have hne : delimiter.isEmpty = false := by simpa using hdelimiter
  simp only [cut?, hne, Bool.false_eq_true, if_false]
  rw [cutAfter]
  split
  · rfl
  · rw [cutAfter_eq_map]
    rfl

/-! ## Cutting into pieces -/

/-- Elements that still belong to a delimiter are passed over. -/
private theorem segmentsAfter_skip (delimiter : List α) (n : Nat) (piece : List α)
    (done : List (List α)) (list : List α) :
    segmentsAfter delimiter n piece done list =
      segmentsAfter delimiter 0 piece done (list.drop n) := by
  induction list generalizing n with
  | nil => rw [List.drop_nil, segmentsAfter, segmentsAfter]
  | cons y rest ih =>
    cases n with
    | zero => rfl
    | succ n => exact ih n

/-- The closed pieces stand before those that are still to come. -/
private theorem segmentsAfter_done (delimiter : List α) (n : Nat) (piece : List α)
    (done : List (List α)) (list : List α) :
    segmentsAfter delimiter n piece done list =
      done.reverse ++ segmentsAfter delimiter n piece [] list := by
  induction list generalizing n piece done with
  | nil => simp [segmentsAfter]
  | cons y rest ih =>
    cases n with
    | succ n => exact ih n piece done
    | zero =>
      rw [segmentsAfter, segmentsAfter]
      split
      · rw [ih _ _ (piece.reverse :: done), ih _ _ [piece.reverse]]
        simp
      · exact ih _ _ _

/-- The open piece reaches up to the next cut, and the pieces after it are those of the rest. -/
private theorem segmentsAfter_eq (hdelimiter : delimiter ≠ []) (piece list : List α) :
    segmentsAfter delimiter 0 piece [] list =
      match cut? delimiter list with
      | none => [piece.reverse ++ list]
      | some (before, after) => (piece.reverse ++ before) :: segments delimiter after := by
  have hne : delimiter.isEmpty = false := by simpa using hdelimiter
  induction list generalizing piece with
  | nil => simp [segmentsAfter]
  | cons y rest ih =>
    rw [segmentsAfter, cut?_cons hdelimiter]
    split
    next hprefix =>
      obtain ⟨z, tail, rfl⟩ := List.exists_cons_of_ne_nil hdelimiter
      rw [segmentsAfter_skip, segmentsAfter_done]
      simp [segments]
    next =>
      rw [ih]
      cases cut? delimiter rest <;> simp

/-- The pieces of a list are what stands before its cut and the pieces of what stands after. -/
theorem segments_eq (delimiter list : List α) :
    segments delimiter list =
      match cut? delimiter list with
      | none => [list]
      | some (before, after) => before :: segments delimiter after := by
  by_cases hdelimiter : delimiter = []
  · subst hdelimiter
    rfl
  · have hne : delimiter.isEmpty = false := by simpa using hdelimiter
    have h := segmentsAfter_eq hdelimiter [] list
    simpa [segments, hne] using h

/-- A list that is not cut is one piece. -/
theorem segments_of_cut?_eq_none (h : cut? delimiter list = none) :
    segments delimiter list = [list] := by
  rw [segments_eq, h]

/-- A cut closes the first piece. -/
theorem segments_of_cut? (h : cut? delimiter list = some (before, after)) :
    segments delimiter list = before :: segments delimiter after := by
  rw [segments_eq, h]

/-- There is at least one piece. -/
theorem segments_ne_nil (delimiter list : List α) : segments delimiter list ≠ [] := by
  rw [segments_eq]
  split <;> exact List.cons_ne_nil _ _

/-! ## Where a list is cut -/

variable [LawfulBEq α]

/-- The delimiter stands at a cut. -/
theorem eq_append_of_cut? (h : cut? delimiter list = some (before, after)) :
    list = before ++ delimiter ++ after := by
  by_cases hdelimiter : delimiter = []
  · simp [hdelimiter] at h
  induction list generalizing before with
  | nil => simp at h
  | cons y rest ih =>
    rw [cut?_cons hdelimiter] at h
    split at h
    next hprefix =>
      obtain ⟨tail, htail⟩ := List.isPrefixOf_iff_prefix.mp hprefix
      rw [← htail, List.drop_left] at h
      obtain ⟨rfl, rfl⟩ := Prod.mk.inj (Option.some.inj h)
      exact htail.symm
    next =>
      obtain ⟨⟨before', after'⟩, hcut, heq⟩ := Option.map_eq_some_iff.mp h
      obtain ⟨rfl, rfl⟩ := Prod.mk.inj heq
      simp [ih hcut]

/-- No occurrence of the delimiter has less before it than a cut has. -/
theorem length_le_of_cut? (h : cut? delimiter list = some (before, after))
    (before' after' : List α) (hlist : list = before' ++ delimiter ++ after') :
    before.length ≤ before'.length := by
  by_cases hdelimiter : delimiter = []
  · simp [hdelimiter] at h
  induction list generalizing before before' with
  | nil => simp at h
  | cons y rest ih =>
    rw [cut?_cons hdelimiter] at h
    split at h
    next =>
      obtain ⟨rfl, rfl⟩ := Prod.mk.inj (Option.some.inj h)
      exact Nat.zero_le _
    next hprefix =>
      obtain ⟨⟨before₀, after₀⟩, hcut, heq⟩ := Option.map_eq_some_iff.mp h
      obtain ⟨rfl, rfl⟩ := Prod.mk.inj heq
      -- An occurrence at the start would have been the cut.
      cases before' with
      | nil => exact absurd (List.isPrefixOf_iff_prefix.mpr ⟨after', hlist.symm⟩) hprefix
      | cons z before'' =>
        obtain ⟨rfl, hrest⟩ := List.cons.inj hlist
        exact Nat.succ_le_succ (ih hcut before'' hrest)

/-- A list is cut if the delimiter occurs in it. -/
theorem isSome_cut?_of_isInfix (hdelimiter : delimiter ≠ []) (h : delimiter <:+: list) :
    (cut? delimiter list).isSome := by
  induction list with
  | nil => exact absurd (List.infix_nil.mp h) hdelimiter
  | cons y rest ih =>
    rw [cut?_cons hdelimiter]
    split
    next => rfl
    next hprefix =>
      rw [Option.isSome_map]
      rw [List.isPrefixOf_iff_prefix] at hprefix
      exact ih ((List.infix_cons_iff.mp h).resolve_left hprefix)

/-- A cut is made exactly at the first occurrence of the delimiter. -/
theorem cut?_eq_some_iff :
    cut? delimiter list = some (before, after) ↔
      delimiter ≠ [] ∧ FirstCut delimiter list before after := by
  constructor
  · intro h
    refine ⟨?_, eq_append_of_cut? h, length_le_of_cut? h⟩
    rintro rfl
    simp at h
  · rintro ⟨hdelimiter, hfirst⟩
    have hinfix : delimiter <:+: list := ⟨before, after, hfirst.eq_append.symm⟩
    obtain ⟨⟨before', after'⟩, hcut⟩ :=
      Option.isSome_iff_exists.mp (isSome_cut?_of_isInfix hdelimiter hinfix)
    -- Both occurrences are first, so as much stands before the one as before the other.
    have hle := length_le_of_cut? hcut _ _ hfirst.eq_append
    have hge := hfirst.length_le _ _ (eq_append_of_cut? hcut)
    have hsplit := (eq_append_of_cut? hcut).symm.trans hfirst.eq_append
    obtain ⟨hhead, htail⟩ := List.append_inj hsplit (by simp; omega)
    obtain ⟨rfl, -⟩ := List.append_inj hhead (by omega)
    rw [hcut, htail]

/-- Nothing is cut exactly when the delimiter is empty or does not occur. -/
theorem cut?_eq_none_iff :
    cut? delimiter list = none ↔ delimiter = [] ∨ ¬ delimiter <:+: list := by
  constructor
  · intro h
    by_contra hnot
    obtain ⟨hdelimiter, hinfix⟩ := not_or.mp hnot
    have hsome := isSome_cut?_of_isInfix hdelimiter (not_not.mp hinfix)
    rw [h] at hsome
    exact Bool.false_ne_true hsome
  · rintro (rfl | hinfix)
    · rfl
    · rw [Option.eq_none_iff_forall_ne_some]
      rintro ⟨before, after⟩ hcut
      exact hinfix ⟨before, after, (eq_append_of_cut? hcut).symm⟩

/-- What stands behind a list that is cut is left behind the cut. -/
theorem cut?_append (h : cut? delimiter list = some (before, after)) (rest : List α) :
    cut? delimiter (list ++ rest) = some (before, after ++ rest) := by
  obtain ⟨hne, hcut⟩ := cut?_eq_some_iff.mp h
  refine cut?_eq_some_iff.mpr ⟨hne, ?_, fun before' after' heq => ?_⟩
  · rw [hcut.eq_append, List.append_assoc]
  · -- An occurrence with less before it would lie in the list itself.
    by_contra hlt
    have hlength := congrArg List.length hcut.eq_append
    simp only [List.length_append] at hlength
    have hprefix : before' ++ delimiter <+: list := by
      refine List.prefix_of_prefix_length_le ⟨after', heq.symm⟩ (List.prefix_append list rest) ?_
      rw [List.length_append]
      omega
    obtain ⟨between, hbetween⟩ := hprefix
    exact hlt (hcut.length_le before' between hbetween.symm)

/-- A beginning without the first element of the delimiter is passed over. -/
theorem cut?_append_of_not_mem (hx : x ∉ before) (delimiter list : List α) :
    cut? (x :: delimiter) (before ++ list) =
      (cut? (x :: delimiter) list).map fun cut => (before ++ cut.1, cut.2) := by
  induction before with
  | nil => simp
  | cons y rest ih =>
    have hprefix : ¬ (x :: delimiter).isPrefixOf (y :: (rest ++ list)) := by
      rw [List.isPrefixOf_iff_prefix]
      rintro ⟨tail, htail⟩
      exact hx (by simp [(List.cons.inj htail).1])
    rw [List.cons_append, cut?_cons (List.cons_ne_nil _ _), if_neg hprefix,
      ih fun h => hx (List.mem_cons_of_mem _ h), Option.map_map]
    rfl

/-- A list that begins with the delimiter is cut there. -/
theorem cut?_delimiter_append (hdelimiter : delimiter ≠ []) (after : List α) :
    cut? delimiter (delimiter ++ after) = some ([], after) :=
  cut?_eq_some_iff.mpr ⟨hdelimiter, ⟨rfl, fun _ _ _ => Nat.zero_le _⟩⟩

/-- What stands before the first element of the delimiter is cut off in front of the
delimiter. -/
theorem cut?_of_not_mem (hx : x ∉ before) (delimiter after : List α) :
    cut? (x :: delimiter) (before ++ (x :: delimiter) ++ after) = some (before, after) := by
  rw [List.append_assoc, cut?_append_of_not_mem hx,
    cut?_delimiter_append (List.cons_ne_nil _ _)]
  simp

/-- A list without the first element of the delimiter is not cut. -/
theorem cut?_eq_none_of_not_mem (hx : x ∉ list) (delimiter : List α) :
    cut? (x :: delimiter) list = none := by
  have h := cut?_append_of_not_mem hx delimiter []
  rwa [List.append_nil, cut?_empty] at h

/-- With a delimiter of one element, that element does not stand before the cut. -/
theorem not_mem_of_cut? (h : cut? [x] list = some (before, after)) : x ∉ before := by
  intro hx
  obtain ⟨left, right, rfl⟩ := List.append_of_mem hx
  have hle := length_le_of_cut? h left (right ++ [x] ++ after) (by simp [eq_append_of_cut? h])
  rw [List.length_append, List.length_cons] at hle
  omega

/-- With a delimiter of one element, a list that is not cut does not hold it. -/
theorem not_mem_of_cut?_eq_none (h : cut? [x] list = none) : x ∉ list := by
  have hinfix := (cut?_eq_none_iff.mp h).resolve_left (List.cons_ne_nil _ _)
  exact mt (List.singleton_infix_iff _ _).mpr hinfix

/-- Less stands after a cut than in the whole list. -/
theorem length_lt_of_cut? (h : cut? delimiter list = some (before, after)) :
    after.length < list.length := by
  obtain ⟨hdelimiter, hfirst⟩ := cut?_eq_some_iff.mp h
  have := List.length_pos_iff.mpr hdelimiter
  rw [hfirst.eq_append, List.length_append, List.length_append]
  omega

/-- What holds of a list without a cut, and of a list that is cut whenever it holds of what
stands after the cut, holds of every list. -/
theorem cut_induction {motive : List α → Prop} (delimiter : List α)
    (single : ∀ list, cut? delimiter list = none → motive list)
    (cut : ∀ list before after, cut? delimiter list = some (before, after) → motive after →
      motive list) (list : List α) : motive list := by
  induction hn : list.length using Nat.strong_induction_on generalizing list with
  | h n ih =>
    cases hcut : cut? delimiter list with
    | none => exact single list hcut
    | some parts =>
      obtain ⟨before, after⟩ := parts
      exact cut list before after hcut (ih _ (hn ▸ length_lt_of_cut? hcut) after rfl)

/-! ## What the pieces are -/

/-- The pieces with the delimiter between them are the list. -/
theorem intercalate_segments (delimiter list : List α) :
    delimiter.intercalate (segments delimiter list) = list := by
  induction list using cut_induction delimiter with
  | single list hcut => simp [segments_of_cut?_eq_none hcut]
  | cut list before after hcut ih =>
    obtain ⟨piece, pieces, hpieces⟩ :=
      List.exists_cons_of_ne_nil (segments_ne_nil delimiter after)
    rw [segments_of_cut? hcut, hpieces, List.intercalate_cons_cons, ← hpieces, ih]
    exact (eq_append_of_cut? hcut).symm

/-- Every piece stands in the list. -/
theorem infix_of_mem_segments {piece : List α} (h : piece ∈ segments delimiter list) :
    piece <:+: list := by
  induction list using cut_induction delimiter with
  | single list hcut =>
    rw [segments_of_cut?_eq_none hcut, List.mem_singleton] at h
    rw [h]
  | cut list before after hcut ih =>
    rw [segments_of_cut? hcut] at h
    have heq := eq_append_of_cut? hcut
    rcases List.mem_cons.mp h with rfl | hmem
    · exact ⟨[], delimiter ++ after, by simp [heq]⟩
    · exact (ih hmem).trans ⟨before ++ delimiter, [], by simp [heq]⟩

/-- The delimiter occurs in no piece. -/
theorem not_infix_of_mem_segments (hdelimiter : delimiter ≠ []) {piece : List α}
    (h : piece ∈ segments delimiter list) : ¬ delimiter <:+: piece := by
  induction list using cut_induction delimiter with
  | single list hcut =>
    rw [segments_of_cut?_eq_none hcut, List.mem_singleton] at h
    rw [h]
    exact (cut?_eq_none_iff.mp hcut).resolve_left hdelimiter
  | cut list before after hcut ih =>
    rw [segments_of_cut? hcut] at h
    rcases List.mem_cons.mp h with rfl | hmem
    · -- An occurrence in the first piece would come before the cut.
      rintro ⟨left, right, rfl⟩
      have hle := length_le_of_cut? hcut left (right ++ delimiter ++ after)
        (by simp [eq_append_of_cut? hcut])
      have := List.length_pos_iff.mpr hdelimiter
      simp only [List.length_append] at hle
      omega
    · exact ih hmem

/-- Pieces without the first element of the delimiter are recovered from their join. -/
theorem segments_intercalate {pieces : List (List α)} (hpieces : pieces ≠ [])
    (hx : ∀ piece ∈ pieces, x ∉ piece) (delimiter : List α) :
    segments (x :: delimiter) ((x :: delimiter).intercalate pieces) = pieces := by
  induction pieces with
  | nil => exact absurd rfl hpieces
  | cons piece rest ih =>
    have hpiece : x ∉ piece := hx piece List.mem_cons_self
    cases rest with
    | nil =>
      rw [List.intercalate_singleton]
      exact segments_of_cut?_eq_none (cut?_eq_none_of_not_mem hpiece delimiter)
    | cons next rest =>
      rw [List.intercalate_cons_cons, segments_of_cut? (cut?_of_not_mem hpiece delimiter _),
        ih (List.cons_ne_nil _ _) fun p hp => hx p (List.mem_cons_of_mem _ hp)]

/-- With a delimiter of one element, the pieces are the only list of lists without it that
joins to the list. -/
theorem segments_singleton_eq_iff {pieces : List (List α)} :
    segments [x] list = pieces ↔
      pieces ≠ [] ∧ (∀ piece ∈ pieces, x ∉ piece) ∧ [x].intercalate pieces = list := by
  constructor
  · rintro rfl
    refine ⟨segments_ne_nil _ _, fun piece hpiece hx => ?_, intercalate_segments _ _⟩
    exact not_infix_of_mem_segments (List.cons_ne_nil _ _) hpiece
      ((List.singleton_infix_iff _ _).mpr hx)
  · rintro ⟨hne, hx, rfl⟩
    exact segments_intercalate hne hx []

/-- With a delimiter of one element, the pieces of a list with the delimiter inside are those in
front of it and those behind it. -/
theorem segments_append_cons (front : List α) (x : α) (back : List α) :
    segments [x] (front ++ [x] ++ back) = segments [x] front ++ segments [x] back := by
  induction front using cut_induction [x] with
  | single front hcut =>
    have hx : x ∉ front := not_mem_of_cut?_eq_none hcut
    rw [segments_of_cut? (cut?_of_not_mem hx [] back), segments_of_cut?_eq_none hcut]
    rfl
  | cut front before after hcut ih =>
    have hx : x ∉ before := not_mem_of_cut? hcut
    have hwhole : front ++ [x] ++ back = before ++ [x] ++ (after ++ [x] ++ back) := by
      rw [eq_append_of_cut? hcut]
      simp only [List.append_assoc]
    rw [hwhole, segments_of_cut? (cut?_of_not_mem hx [] _), segments_of_cut? hcut, ih]
    rfl

/-! ## Delimiters without line breaks -/

omit [BEq α] [LawfulBEq α] in
/-- A delimiter does not occur over an element that it does not hold. -/
theorem not_infix_append_cons (hx : x ∉ delimiter) {front back : List α}
    (hfront : ¬ delimiter <:+: front) (hback : ¬ delimiter <:+: back) :
    ¬ delimiter <:+: front ++ x :: back := by
  rintro ⟨left, right, heq⟩
  rw [List.append_assoc] at heq
  rcases List.append_eq_append_iff.mp heq with ⟨rest, rfl, hrest⟩ | ⟨rest, rfl, hrest⟩
  · -- The occurrence begins in front of the element.
    rcases List.append_eq_append_iff.mp hrest with ⟨tail, rfl, -⟩ | ⟨tail, rfl, htail⟩
    · exact hfront ⟨left, tail, by rw [List.append_assoc]⟩
    · cases tail with
      | nil => exact hfront ⟨left, [], by simp⟩
      | cons z tail =>
        obtain rfl : x = z := (List.cons.inj htail).1
        exact hx (by simp)
  · -- The occurrence begins at the element or behind it.
    cases rest with
    | nil =>
      cases delimiter with
      | nil => exact hback (List.nil_infix)
      | cons z delimiter =>
        obtain rfl : x = z := (List.cons.inj hrest).1
        exact hx List.mem_cons_self
    | cons z rest =>
      have hrest : back = rest ++ (delimiter ++ right) := (List.cons.inj hrest).2
      exact hback ⟨rest, right, by rw [hrest, List.append_assoc]⟩

omit [BEq α] [LawfulBEq α] in
/-- A delimiter without line breaks does not occur in lines in none of which it occurs. -/
theorem not_infix_intercalate (hdelimiter : delimiter ≠ []) (hx : x ∉ delimiter)
    {y : α} (hy : y ∉ delimiter) {lines : List (List α)}
    (hlines : ∀ line ∈ lines, ¬ delimiter <:+: line) :
    ¬ delimiter <:+: [x, y].intercalate lines := by
  have hempty : ¬ delimiter <:+: [] := fun h => hdelimiter (List.infix_nil.mp h)
  induction lines with
  | nil => exact hempty
  | cons line rest ih =>
    obtain ⟨hline, hrest⟩ := List.forall_mem_cons.mp hlines
    cases rest with
    | nil => rwa [List.intercalate_singleton]
    | cons next rest =>
      have hback := not_infix_append_cons hy hempty (ih hrest)
      rw [List.intercalate_cons_cons, List.append_assoc]
      exact not_infix_append_cons hx hline hback

/-- A piece that ends with an element that the delimiter does not hold is cut off in front of the
delimiter. -/
theorem cut?_of_not_isInfix (hdelimiter : delimiter ≠ []) (hx : x ∉ delimiter) {piece : List α}
    (hpiece : ¬ delimiter <:+: piece ++ [x]) (after : List α) :
    cut? delimiter (piece ++ [x] ++ delimiter ++ after) = some (piece ++ [x], after) := by
  refine cut?_eq_some_iff.mpr ⟨hdelimiter, rfl, fun before' after' heq => ?_⟩
  by_contra hlt
  rw [List.append_assoc, List.append_assoc before'] at heq
  rcases List.append_eq_append_iff.mp heq with ⟨rest, rfl, -⟩ | ⟨rest, hfront, hrest⟩
  · exact hlt (by simp)
  · -- The earlier occurrence lies in the piece, or it reaches over the last element.
    have hmem : x ∈ rest := by
      rcases List.append_eq_append_iff.mp hfront with ⟨front, rfl, hsingle⟩ | ⟨front, -, rfl⟩
      · cases front with
        | nil =>
          rw [List.nil_append] at hsingle
          rw [← hsingle]
          exact List.mem_singleton_self x
        | cons z front => exact absurd hlt (by simp)
      · simp
    rcases List.append_eq_append_iff.mp hrest with ⟨tail, rfl, -⟩ | ⟨tail, rfl, -⟩
    · exact hpiece ⟨before', tail, by rw [hfront, List.append_assoc]⟩
    · exact hx (List.mem_append_left _ hmem)

/-! ## Lines up to an empty line -/

omit [BEq α] [LawfulBEq α] in
/-- What stands between the pieces and after the last one stands after each piece. -/
theorem intercalate_append_self (separator : List α) {pieces : List (List α)}
    (hpieces : pieces ≠ []) :
    separator.intercalate pieces ++ separator = pieces.flatMap (· ++ separator) := by
  induction pieces with
  | nil => exact absurd rfl hpieces
  | cons piece rest ih =>
    cases rest with
    | nil => simp
    | cons next rest =>
      rw [List.intercalate_cons_cons, List.append_assoc, ih (List.cons_ne_nil _ _)]
      rfl

/-- Lines with line breaks between them are cut off at the first empty line after them. -/
theorem cut?_blankLine {y : α} (hxy : x ≠ y) {lines : List (List α)} (hlines : lines ≠ [])
    (hx : ∀ line ∈ lines, x ∉ line) (hnil : ∀ line ∈ lines, line ≠ []) (after : List α) :
    cut? [x, y, x, y] ([x, y].intercalate lines ++ [x, y, x, y] ++ after) =
      some ([x, y].intercalate lines, after) := by
  induction lines with
  | nil => exact absurd rfl hlines
  | cons line rest ih =>
    have hline : x ∉ line := hx line List.mem_cons_self
    cases rest with
    | nil =>
      rw [List.intercalate_singleton]
      exact cut?_of_not_mem hline _ _
    | cons next rest =>
      have ih := ih (List.cons_ne_nil _ _) (fun l hl => hx l (List.mem_cons_of_mem _ hl))
        fun l hl => hnil l (List.mem_cons_of_mem _ hl)
      obtain ⟨z, tail, rfl⟩ := List.exists_cons_of_ne_nil (hnil next (by simp))
      have hxz : x ≠ z := fun h => hx (z :: tail) (by simp) (by simp [h])
      -- The next line begins with another element than a line break, so no empty line ends here.
      have hhead : ∃ more, [x, y].intercalate ((z :: tail) :: rest) = z :: more := by
        cases rest with
        | nil => exact ⟨tail, by rw [List.intercalate_singleton]⟩
        | cons l ls => exact ⟨_, by rw [List.intercalate_cons_cons]; rfl⟩
      obtain ⟨more, hmore⟩ := hhead
      rw [hmore] at ih
      rw [List.intercalate_cons_cons, hmore]
      simp only [List.append_assoc, List.cons_append, List.nil_append] at ih ⊢
      rw [cut?_append_of_not_mem hline, cut?_cons (List.cons_ne_nil _ _), if_neg (by simp [hxz]),
        cut?_cons (List.cons_ne_nil _ _), if_neg (by simp [hxy]), ih]
      rfl

end RelationGateway.Delimited

namespace RelationGateway.Text

variable {delimiter s before after : String}

/-! ## Cutting texts -/

/-- A text is cut where the list of its characters is. -/
theorem cut?_eq_some_iff :
    cut? delimiter s = some (before, after) ↔
      Delimited.cut? delimiter.toList s.toList = some (before.toList, after.toList) := by
  rw [cut?, Option.map_eq_some_iff]
  constructor
  · rintro ⟨⟨l, r⟩, hcut, heq⟩
    obtain ⟨rfl, rfl⟩ := Prod.mk.inj heq
    simpa using hcut
  · intro hcut
    exact ⟨_, hcut, by simp⟩

/-- What stands behind a text that is cut is left behind the cut. -/
theorem cut?_append (h : cut? delimiter s = some (before, after)) (rest : String) :
    cut? delimiter (s ++ rest) = some (before, after ++ rest) := by
  rw [cut?_eq_some_iff] at h ⊢
  rw [String.toList_append, String.toList_append]
  exact Delimited.cut?_append h rest.toList

/-- What stands before the first character of the delimiter is cut off in front of it. -/
theorem cut?_of_not_mem {c : Char} {rest : List Char} (hdelimiter : delimiter.toList = c :: rest)
    (hc : c ∉ before.toList) (after : String) :
    cut? delimiter (before ++ delimiter ++ after) = some (before, after) := by
  rw [cut?_eq_some_iff, String.toList_append, String.toList_append, hdelimiter]
  exact Delimited.cut?_of_not_mem hc rest after.toList

/-- The delimiter stands at a cut. -/
theorem eq_append_of_cut? (h : cut? delimiter s = some (before, after)) :
    s = before ++ delimiter ++ after := by
  apply String.toList_inj.mp
  rw [String.toList_append, String.toList_append]
  exact Delimited.eq_append_of_cut? (cut?_eq_some_iff.mp h)

/-- With a delimiter of one character, that character does not stand before the cut. -/
theorem not_mem_of_cut? {c : Char} (hdelimiter : delimiter.toList = [c])
    (h : cut? delimiter s = some (before, after)) : c ∉ before.toList := by
  rw [cut?_eq_some_iff, hdelimiter] at h
  exact Delimited.not_mem_of_cut? h

/-- A text is not cut exactly when the list of its characters is not. -/
theorem cut?_eq_none_iff :
    cut? delimiter s = none ↔ Delimited.cut? delimiter.toList s.toList = none := by
  rw [cut?, Option.map_eq_none_iff]

/-- With a delimiter of one character, a text that is not cut does not hold it. -/
theorem not_mem_of_cut?_eq_none {c : Char} (hdelimiter : delimiter.toList = [c])
    (h : cut? delimiter s = none) : c ∉ s.toList := by
  rw [cut?_eq_none_iff, hdelimiter] at h
  exact Delimited.not_mem_of_cut?_eq_none h

/-- The pieces of a text are those of the list of its characters. -/
theorem segments_eq_iff {pieces : List String} :
    segments delimiter s = pieces ↔
      Delimited.segments delimiter.toList s.toList = pieces.map String.toList := by
  rw [segments]
  constructor
  · rintro rfl
    simp [Function.comp_def]
  · intro h
    rw [h]
    simp [Function.comp_def]

/-- With a delimiter of one character, the pieces are the only list of texts without it that
joins to the text. -/
theorem segments_singleton_eq_iff {c : Char} (hdelimiter : delimiter.toList = [c])
    {pieces : List String} :
    segments delimiter s = pieces ↔
      pieces ≠ [] ∧ (∀ piece ∈ pieces, c ∉ piece.toList) ∧
        String.intercalate delimiter pieces = s := by
  rw [segments_eq_iff, hdelimiter, Delimited.segments_singleton_eq_iff, ← String.toList_inj,
    String.toList_intercalate, hdelimiter]
  simp

/-- With a delimiter of one character, no piece holds it. -/
theorem not_mem_of_mem_segments {c : Char} (hdelimiter : delimiter.toList = [c]) {piece : String}
    (hpiece : piece ∈ segments delimiter s) : c ∉ piece.toList := by
  obtain ⟨-, hfree, -⟩ := (segments_singleton_eq_iff hdelimiter).mp (rfl : segments delimiter s = _)
  exact hfree piece hpiece

/-- A character of a piece is one of the text. -/
theorem mem_of_mem_segments {piece : String} (hpiece : piece ∈ segments delimiter s) {c : Char}
    (hc : c ∈ piece.toList) : c ∈ s.toList := by
  obtain ⟨chars, hinfix, rfl⟩ := List.mem_map.mp hpiece
  rw [String.toList_ofList] at hc
  exact (Delimited.infix_of_mem_segments hinfix).mem hc

/-- With a delimiter of one character, the pieces of joined texts are those of both. -/
theorem segments_append {c : Char} (hdelimiter : delimiter.toList = [c]) (front back : String) :
    segments delimiter (front ++ delimiter ++ back) =
      segments delimiter front ++ segments delimiter back := by
  rw [segments, segments, segments, String.toList_append, String.toList_append, hdelimiter,
    Delimited.segments_append_cons, List.map_append]

/-- What is done to the characters of a joined text is done to those of the pieces and of the
delimiter. -/
theorem map_intercalate (f : Char → Char) (delimiter : String) (pieces : List String) :
    (String.intercalate delimiter pieces).map f =
      String.intercalate (delimiter.map f) (pieces.map (String.map f)) := by
  induction pieces with
  | nil => simp
  | cons piece rest ih =>
    cases rest with
    | nil => rw [List.map_singleton, String.intercalate_singleton, String.intercalate_singleton]
    | cons next rest =>
      rw [List.map_cons, List.map_cons, String.intercalate_cons_cons, String.intercalate_cons_cons,
        ← List.map_cons, ← ih]
      apply String.toList_inj.mp
      simp only [String.toList_map, String.toList_append, List.map_append]

/-- With another sign for the delimiter a text is joined of the same pieces. -/
theorem substitute_eq_intercalate (old new : String) {c d : Char} (hold : old.toList = [c])
    (hnew : new.toList = [d]) (s : String) :
    substitute c d s = String.intercalate new (segments old s) := by
  obtain ⟨-, hpieces, hjoined⟩ :=
    (segments_singleton_eq_iff hold).mp (rfl : segments old s = segments old s)
  have hpiece : ∀ piece ∈ segments old s, substitute c d piece = piece := by
    intro piece hpiece
    apply String.toList_inj.mp
    rw [substitute, String.toList_map]
    refine (List.map_congr_left fun e he => ?_).trans (List.map_id _)
    have hne : e ≠ c := by
      rintro rfl
      exact hpieces piece hpiece he
    rw [if_neg (mt beq_iff_eq.mp hne), id]
  have hdelimiter : substitute c d old = new := by
    apply String.toList_inj.mp
    rw [substitute, String.toList_map, hold, hnew]
    simp
  calc substitute c d s
      = substitute c d (String.intercalate old (segments old s)) := by rw [hjoined]
    _ = String.intercalate (substitute c d old) ((segments old s).map (substitute c d)) :=
        map_intercalate _ _ _
    _ = String.intercalate new (segments old s) := by
        rw [hdelimiter, List.map_congr_left hpiece, List.map_id']

/-- A start is dropped exactly from a text that begins with it. -/
theorem dropStart?_eq_some_iff {start rest : String} :
    dropStart? start s = some rest ↔ s = start ++ rest := by
  unfold dropStart?
  rw [← String.length_toList]
  constructor
  · intro h
    split at h
    next hprefix =>
      obtain ⟨tail, htail⟩ := List.isPrefixOf_iff_prefix.mp hprefix
      rw [← htail, List.drop_left, Option.some.injEq] at h
      apply String.toList_inj.mp
      rw [← htail, ← h, String.toList_append, String.toList_ofList]
    next => simp at h
  · rintro rfl
    have hprefix : start.toList.isPrefixOf (start ++ rest).toList := by
      rw [String.toList_append]
      exact List.isPrefixOf_iff_prefix.mpr (List.prefix_append _ _)
    rw [if_pos hprefix, String.toList_append, List.drop_left, String.ofList_toList]

/-- A tail is dropped exactly from a text that ends with it. -/
theorem dropTail?_eq_some_iff {tail rest : String} :
    dropTail? tail s = some rest ↔ s = rest ++ tail := by
  unfold dropTail?
  rw [← String.length_toList, ← String.length_toList]
  constructor
  · intro h
    split at h
    next hsuffix =>
      obtain ⟨front, hfront⟩ := List.isSuffixOf_iff_suffix.mp hsuffix
      rw [← hfront, List.length_append, Nat.add_sub_cancel, List.take_left,
        Option.some.injEq] at h
      apply String.toList_inj.mp
      rw [← hfront, ← h, String.toList_append, String.toList_ofList]
    next => simp at h
  · rintro rfl
    have hsuffix : tail.toList.isSuffixOf (rest ++ tail).toList := by
      rw [String.toList_append]
      exact List.isSuffixOf_iff_suffix.mpr (List.suffix_append _ _)
    rw [if_pos hsuffix, String.toList_append, List.length_append, Nat.add_sub_cancel,
      List.take_left, String.ofList_toList]

/-- A text in its enclosure is taken out of it. -/
theorem unenclosed_enclosed (opening closing inner : String) :
    unenclosed opening closing (opening ++ inner ++ closing) = inner := by
  have hstart : dropStart? opening (opening ++ inner ++ closing) = some (inner ++ closing) :=
    dropStart?_eq_some_iff.mpr String.append_assoc
  have htail : dropTail? closing (inner ++ closing) = some inner := dropTail?_eq_some_iff.mpr rfl
  rw [unenclosed, hstart, Option.bind_some, htail, Option.getD_some]

/-- A text that is not enclosed stays as it is. -/
theorem unenclosed_of_forall_ne {opening closing : String}
    (h : ∀ inner, s ≠ opening ++ inner ++ closing) : unenclosed opening closing s = s := by
  have hnone : (dropStart? opening s).bind (dropTail? closing) = none := by
    rw [Option.eq_none_iff_forall_ne_some]
    intro inner hinner
    obtain ⟨rest, hstart, htail⟩ := Option.bind_eq_some_iff.mp hinner
    rw [dropStart?_eq_some_iff] at hstart
    rw [dropTail?_eq_some_iff] at htail
    exact h inner (by rw [hstart, htail, String.append_assoc])
  rw [unenclosed, hnone, Option.getD_none]

end RelationGateway.Text
