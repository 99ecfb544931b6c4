import RelationGateway.Proofs.Delimited

/-!
# Where the pieces of a list lie

The spans of a list are its leftmost split: they lie in the list in order, one delimiter apart, each
ends at the first occurrence of the delimiter behind its start, and in the last one the delimiter
does not occur. There is no other list of spans like that.

* `LeftmostSplit`: what the spans of a list must satisfy;
* `Cuts`: the spans behind a place, as cutting again and again leaves them;
* `leftmostSplit_iff`: the spans are the only leftmost split;
* `exists_occurrences`: there is an occurrence of the delimiter for each span but one;
* `segments_eq_map_slice`, `cut?_eq_spans`: the pieces and the first cut are read off the spans;
* `spans_leftmost`: the ways of dividing a list agree.
-/

namespace RelationGateway.Delimited

variable {α : Type} {delimiter list : List α} {spans : List (Nat × Nat)} {span : Nat × Nat}
  {start : Nat}

/-! ## Slices -/

/-- What stands in a list from the first of two places up to the second. -/
def slice (list : List α) (span : Nat × Nat) : List α :=
  (list.drop span.1).take (span.2 - span.1)

/-- A slice of a list that is long enough is as long as its places are apart. -/
theorem length_slice (hspan : span.2 ≤ list.length) :
    (slice list span).length = span.2 - span.1 := by
  rw [slice, List.length_take, List.length_drop]
  omega

/-- A slice to the end is all that stands behind its start. -/
theorem slice_length (list : List α) (start : Nat) :
    slice list (start, list.length) = list.drop start := by
  rw [slice, List.take_of_length_le (by rw [List.length_drop])]

/-- What stands between two lists is the slice between their places. -/
theorem slice_append (front middle back : List α) :
    slice (front ++ middle ++ back) (front.length, front.length + middle.length) = middle := by
  rw [slice, List.append_assoc, List.drop_left, Nat.add_sub_cancel_left, List.take_left]

/-- A slice stands in the list. -/
theorem slice_infix (list : List α) (span : Nat × Nat) : slice list span <:+: list :=
  (List.take_prefix _ _).isInfix.trans (List.drop_suffix _ _).isInfix

/-! ## Leftmost splits -/

/-- The spans divide the list at the leftmost occurrences of the delimiter. -/
structure LeftmostSplit (delimiter list : List α) (spans : List (Nat × Nat)) : Prop where
  /-- Every span lies in the list. -/
  bounds : ∀ span ∈ spans, span.1 ≤ span.2 ∧ span.2 ≤ list.length
  /-- Every span ends before the later ones start. -/
  increasing : spans.Pairwise fun span later => span.2 < later.1
  /-- One delimiter is between a span and the next one. -/
  apart : spans.IsChain fun span next => next.1 = span.2 + delimiter.length
  /-- The slices with the delimiter between them are the list. -/
  joined : delimiter.intercalate (spans.map (slice list)) = list
  /-- Every span but the last ends at the first occurrence of the delimiter behind its start. -/
  first : ∀ span ∈ spans.dropLast,
    FirstCut delimiter (list.drop span.1) (slice list span) (list.drop (span.2 + delimiter.length))
  /-- There is a last span, and the delimiter does not occur in it. -/
  last : ∃ span ∈ spans.getLast?, ¬ delimiter <:+: slice list span

/-- The spans of what stands behind a place: what is left if it is not cut, or the span in front of
the first occurrence and the spans of what stands behind that. -/
inductive Cuts (delimiter list : List α) : Nat → List (Nat × Nat) → Prop
  | last {start : Nat} (bound : start ≤ list.length) (whole : ¬ delimiter <:+: list.drop start) :
      Cuts delimiter list start [(start, list.length)]
  | cut {start stop : Nat} {spans : List (Nat × Nat)} (order : start ≤ stop)
      (bound : stop + delimiter.length ≤ list.length)
      (first : FirstCut delimiter (list.drop start) (slice list (start, stop))
        (list.drop (stop + delimiter.length)))
      (rest : Cuts delimiter list (stop + delimiter.length) spans) :
      Cuts delimiter list start ((start, stop) :: spans)

namespace Cuts

/-- The first of the spans starts at the place. -/
theorem exists_cons (h : Cuts delimiter list start spans) :
    ∃ stop rest, spans = (start, stop) :: rest := by
  cases h with
  | last bound whole => exact ⟨_, _, rfl⟩
  | cut order bound first rest => exact ⟨_, _, rfl⟩

/-- The spans lie in the list behind the place. -/
theorem bounds (h : Cuts delimiter list start spans) :
    ∀ span ∈ spans, start ≤ span.1 ∧ span.1 ≤ span.2 ∧ span.2 ≤ list.length := by
  induction h with
  | last bound whole => exact List.forall_mem_singleton.mpr ⟨Nat.le_refl _, bound, Nat.le_refl _⟩
  | cut order bound first rest ih =>
    refine List.forall_mem_cons.mpr ⟨⟨Nat.le_refl _, order, by omega⟩, fun span hspan => ?_⟩
    exact ⟨by have := ih span hspan; omega, (ih span hspan).2⟩

/-- Every span ends before the later ones start. -/
theorem increasing (h : Cuts delimiter list start spans) (hdelimiter : delimiter ≠ []) :
    spans.Pairwise fun span later => span.2 < later.1 := by
  have hpos := List.length_pos_iff.mpr hdelimiter
  induction h with
  | last bound whole => exact List.pairwise_singleton _ _
  | cut order bound first rest ih =>
    refine List.pairwise_cons.mpr ⟨fun later hlater => ?_, ih⟩
    have hstart := (rest.bounds later hlater).1
    show _ < later.1
    omega

/-- One delimiter is between a span and the next one. -/
theorem apart (h : Cuts delimiter list start spans) :
    spans.IsChain fun span next => next.1 = span.2 + delimiter.length := by
  induction h with
  | last bound whole => exact .singleton _
  | cut order bound first rest ih =>
    obtain ⟨stop, more, rfl⟩ := rest.exists_cons
    exact List.isChain_cons_cons.mpr ⟨rfl, ih⟩

/-- The slices with the delimiter between them are what stands behind the place. -/
theorem joined (h : Cuts delimiter list start spans) :
    delimiter.intercalate (spans.map (slice list)) = list.drop start := by
  induction h with
  | last bound whole => rw [List.map_singleton, List.intercalate_singleton, slice_length]
  | cut order bound first rest ih =>
    obtain ⟨stop, more, rfl⟩ := rest.exists_cons
    rw [List.map_cons, List.map_cons, List.intercalate_cons_cons, ← List.map_cons, ih]
    exact first.eq_append.symm

/-- Every span but the last ends at the first occurrence of the delimiter. -/
theorem first (h : Cuts delimiter list start spans) : ∀ span ∈ spans.dropLast,
    FirstCut delimiter (list.drop span.1) (slice list span)
      (list.drop (span.2 + delimiter.length)) := by
  induction h with
  | last bound whole => simp
  | cut order bound first rest ih =>
    obtain ⟨stop, more, rfl⟩ := rest.exists_cons
    rw [List.dropLast_cons_cons]
    exact List.forall_mem_cons.mpr ⟨first, ih⟩

/-- There is a last span, and the delimiter does not occur in it. -/
theorem last_span (h : Cuts delimiter list start spans) :
    ∃ span ∈ spans.getLast?, ¬ delimiter <:+: slice list span := by
  induction h with
  | last bound whole => exact ⟨(_, list.length), rfl, by rwa [slice_length]⟩
  | cut order bound first rest ih =>
    obtain ⟨stop, more, rfl⟩ := rest.exists_cons
    rwa [List.getLast?_cons_cons]

/-- The ends of the spans but the last are occurrences of the delimiter that do not overlap. -/
theorem exists_occurrences (h : Cuts delimiter list start spans) :
    ∃ places : List Nat, places.length + 1 = spans.length ∧
      (∀ place ∈ places, start ≤ place ∧ delimiter <+: list.drop place) ∧
      places.Pairwise fun place later => place + delimiter.length ≤ later := by
  induction h with
  | last bound whole => exact ⟨[], rfl, by simp, .nil⟩
  | @cut start stop spans order bound first rest ih =>
    obtain ⟨places, hlength, hplaces, hpairwise⟩ := ih
    have hslice : (slice list (start, stop)).length = stop - start :=
      length_slice (by show stop ≤ _; omega)
    -- The delimiter that ends the span stands at its end, and the later ones stand behind it.
    have hstop : list.drop stop = delimiter ++ list.drop (stop + delimiter.length) := by
      have hdrop := congrArg (List.drop (stop - start)) first.eq_append
      rwa [List.drop_drop, Nat.add_sub_cancel' order, ← hslice, List.append_assoc,
        List.drop_left] at hdrop
    refine ⟨stop :: places, congrArg Nat.succ hlength, ?_, ?_⟩
    · have hat : delimiter <+: list.drop stop := hstop ▸ List.prefix_append _ _
      refine List.forall_mem_cons.mpr ⟨⟨order, hat⟩, fun place hplace => ?_⟩
      have hlater := hplaces place hplace
      exact ⟨by omega, hlater.2⟩
    · exact List.pairwise_cons.mpr ⟨fun later hlater => (hplaces later hlater).1, hpairwise⟩

/-- Cutting from the start on makes a leftmost split. -/
theorem leftmostSplit (h : Cuts delimiter list 0 spans) (hdelimiter : delimiter ≠ []) :
    LeftmostSplit delimiter list spans where
  bounds span hspan := (h.bounds span hspan).2
  increasing := h.increasing hdelimiter
  apart := h.apart
  joined := h.joined
  first := h.first
  last := h.last_span

end Cuts

/-- Joined slices that lie one delimiter apart are as long as the last end is behind the first
start. -/
theorem length_intercalate_slices (hbounds : ∀ span ∈ spans, span.1 ≤ span.2 ∧ span.2 ≤ list.length)
    (hapart : spans.IsChain fun span next => next.1 = span.2 + delimiter.length)
    {first last : Nat × Nat} (hfirst : spans.head? = some first)
    (hlast : spans.getLast? = some last) :
    first.1 + (delimiter.intercalate (spans.map (slice list))).length = last.2 := by
  induction spans generalizing first with
  | nil => simp at hfirst
  | cons span rest ih =>
    obtain ⟨hspan, hrest⟩ := List.forall_mem_cons.mp hbounds
    obtain rfl : span = first := Option.some.inj hfirst
    cases rest with
    | nil =>
      obtain rfl : span = last := Option.some.inj hlast
      rw [List.map_singleton, List.intercalate_singleton, length_slice hspan.2]
      omega
    | cons next rest =>
      -- The slice and the delimiter behind it reach up to the next start.
      obtain ⟨hnext, htail⟩ := List.isChain_cons_cons.mp hapart
      rw [List.getLast?_cons_cons] at hlast
      have ih := ih hrest htail rfl hlast
      rw [List.map_cons, List.map_cons, List.intercalate_cons_cons, ← List.map_cons,
        List.length_append, List.length_append, length_slice hspan.2]
      omega

/-- A leftmost split of the whole list is what cutting from the start on leaves. -/
theorem LeftmostSplit.cuts (h : LeftmostSplit delimiter list spans) :
    Cuts delimiter list 0 spans := by
  obtain ⟨last, hlast, hwhole⟩ := h.last
  obtain ⟨first, rest, rfl⟩ := List.exists_cons_of_ne_nil (l := spans) (by rintro rfl; cases hlast)
  -- The slices make up the whole list, so nothing is left out in front of them or behind them.
  have hlength := length_intercalate_slices h.bounds h.apart rfl hlast
  rw [h.joined] at hlength
  have hstop := (h.bounds last (List.mem_of_getLast? hlast)).2
  have hstart : first.1 = 0 := by omega
  have hend : last.2 = list.length := by omega
  obtain ⟨hbounds, -, hapart, -, hfirst, -⟩ := h
  rw [← hstart]
  clear hlength hstop hstart
  induction rest generalizing first with
  | nil =>
    obtain rfl : first = last := Option.some.inj hlast
    have hbound := hbounds first List.mem_cons_self
    obtain ⟨start, stop⟩ := first
    obtain rfl : stop = list.length := hend
    rw [slice_length] at hwhole
    exact .last hbound.1 hwhole
  | cons next rest ih =>
    obtain ⟨hspan, hrest⟩ := List.forall_mem_cons.mp hbounds
    obtain ⟨hnext, htail⟩ := List.isChain_cons_cons.mp hapart
    rw [List.dropLast_cons_cons] at hfirst
    obtain ⟨hcut, hlater⟩ := List.forall_mem_cons.mp hfirst
    rw [List.getLast?_cons_cons] at hlast
    have hnextBound := hrest next List.mem_cons_self
    refine .cut hspan.1 (by omega) hcut ?_
    rw [← hnext]
    exact ih next hlast hrest htail hlater

/-! ## The spans of a list -/

variable [BEq α] [LawfulBEq α]

/-- The pieces of what stands behind a place lie where cutting from there on leaves them. -/
theorem cuts_placed (hdelimiter : delimiter ≠ []) (front tail : List α) :
    Cuts delimiter (front ++ tail) front.length
      (placed delimiter.length front.length (segments delimiter tail)) := by
  -- What stands in front grows with each piece, so the induction is over any of it.
  induction tail using cut_induction delimiter generalizing front with
  | single tail hcut =>
    have hwhole : ¬ delimiter <:+: tail := (cut?_eq_none_iff.mp hcut).resolve_left hdelimiter
    rw [segments_of_cut?_eq_none hcut, placed, placed, ← List.length_append]
    exact .last (by simp) (by rwa [List.drop_left])
  | cut tail before after hcut ih =>
    obtain ⟨-, hfirst⟩ := cut?_eq_some_iff.mp hcut
    have ih := ih (front ++ before ++ delimiter)
    have hlist : front ++ before ++ delimiter ++ after = front ++ tail := by
      rw [hfirst.eq_append]
      simp only [List.append_assoc]
    rw [hlist, List.length_append, List.length_append] at ih
    rw [segments_of_cut? hcut, placed]
    refine .cut (by omega) ?_ ?_ ih
    · rw [← hlist]
      simp only [List.length_append]
      omega
    · have hslice := slice_append front before (delimiter ++ after)
      have hafter : (front ++ before ++ delimiter ++ after).drop
          (front.length + before.length + delimiter.length) = after := by
        rw [← List.length_append, ← List.length_append, List.drop_left]
      rw [← List.append_assoc, hlist] at hslice
      rw [hlist] at hafter
      rwa [hslice, hafter, List.drop_left]

/-- Cutting from a place on leaves the pieces of what stands behind it where they lie. -/
theorem Cuts.eq_placed (h : Cuts delimiter list start spans) (hdelimiter : delimiter ≠ []) :
    spans = placed delimiter.length start (segments delimiter (list.drop start)) := by
  induction h with
  | @last start bound whole =>
    rw [segments_of_cut?_eq_none (cut?_eq_none_iff.mpr (.inr whole)), placed, placed,
      List.length_drop, Nat.add_sub_cancel' bound]
  | @cut start stop spans order bound first rest ih =>
    have hstop : start + (stop - start) = stop := by omega
    rw [segments_of_cut? (cut?_eq_some_iff.mpr ⟨hdelimiter, first⟩), placed,
      length_slice (by show stop ≤ _; omega), hstop, ← ih]

/-- The spans of a list are its only leftmost split. -/
theorem leftmostSplit_iff (hdelimiter : delimiter ≠ []) :
    LeftmostSplit delimiter list spans ↔ spans = Delimited.spans delimiter list := by
  constructor
  · intro h
    have heq := h.cuts.eq_placed hdelimiter
    rwa [List.drop_zero] at heq
  · rintro rfl
    exact (cuts_placed hdelimiter [] list).leftmostSplit hdelimiter

/-- There is an occurrence of the delimiter behind each span but the last, and these do not
overlap. -/
theorem exists_occurrences (hdelimiter : delimiter ≠ []) (list : List α) :
    ∃ places : List Nat, places.length + 1 = (Delimited.spans delimiter list).length ∧
      (∀ place ∈ places, delimiter <+: list.drop place) ∧
      places.Pairwise fun place later => place + delimiter.length ≤ later := by
  have hcuts := cuts_placed hdelimiter [] list
  obtain ⟨places, hlength, hplaces, hpairwise⟩ := hcuts.exists_occurrences
  exact ⟨places, hlength, fun place hplace => (hplaces place hplace).2, hpairwise⟩

omit [LawfulBEq α] in
/-- The spans of a list that is cut are that of what stands before the cut and those of what stands
after it. -/
theorem spans_of_cut? {before after : List α} (h : cut? delimiter list = some (before, after)) :
    Delimited.spans delimiter list = (0, before.length) ::
      placed delimiter.length (before.length + delimiter.length) (segments delimiter after) := by
  rw [Delimited.spans, segments_of_cut? h, placed, Nat.zero_add]

omit [LawfulBEq α] in
/-- A list that is not cut is one span. -/
theorem spans_of_cut?_eq_none (h : cut? delimiter list = none) :
    Delimited.spans delimiter list = [(0, list.length)] := by
  rw [Delimited.spans, segments_of_cut?_eq_none h, placed, placed, Nat.zero_add]

omit [BEq α] [LawfulBEq α] in
/-- Pieces that are placed one delimiter apart are the slices there of what they join to. -/
theorem map_slice_placed (delimiter front : List α) {pieces : List (List α)}
    (hpieces : pieces ≠ []) :
    (placed delimiter.length front.length pieces).map
        (slice (front ++ delimiter.intercalate pieces)) = pieces := by
  -- What stands in front of a piece holds those before it, so the induction is over any of it.
  induction pieces generalizing front with
  | nil => exact absurd rfl hpieces
  | cons piece rest ih =>
    cases rest with
    | nil =>
      have hslice := slice_append front piece []
      rw [List.append_nil] at hslice
      rw [List.intercalate_singleton, placed, placed, List.map_singleton, hslice]
    | cons next rest =>
      have ih := ih (front ++ piece ++ delimiter) (List.cons_ne_nil _ _)
      rw [List.length_append, List.length_append] at ih
      have hlist : front ++ delimiter.intercalate (piece :: next :: rest) =
          front ++ piece ++ delimiter ++ delimiter.intercalate (next :: rest) := by
        rw [List.intercalate_cons_cons]
        simp only [List.append_assoc]
      have hslice := slice_append front piece (delimiter ++ delimiter.intercalate (next :: rest))
      rw [← List.append_assoc] at hslice
      rw [placed, List.map_cons, hlist, ih, hslice]

/-- The pieces of a list are the slices at its spans. -/
theorem segments_eq_map_slice (delimiter list : List α) :
    segments delimiter list = (Delimited.spans delimiter list).map (slice list) := by
  have hpieces := map_slice_placed delimiter [] (segments_ne_nil delimiter list)
  rw [intercalate_segments] at hpieces
  exact hpieces.symm

/-- A list is cut exactly if it has more than one span: behind the first, and behind the delimiter
that follows it. -/
theorem cut?_eq_spans (delimiter list : List α) :
    cut? delimiter list =
      if (Delimited.spans delimiter list).length = 1 then none
      else (Delimited.spans delimiter list).head?.map fun span =>
        (slice list span, list.drop (span.2 + delimiter.length)) := by
  cases hcut : cut? delimiter list with
  | none => simp [spans_of_cut?_eq_none hcut]
  | some parts =>
    obtain ⟨before, after⟩ := parts
    have hlist := eq_append_of_cut? hcut
    obtain ⟨piece, pieces, hpieces⟩ := List.exists_cons_of_ne_nil (segments_ne_nil delimiter after)
    have hmore : (Delimited.spans delimiter list).length ≠ 1 := by
      rw [spans_of_cut? hcut, hpieces, placed]
      simp
    have hslice := slice_append [] before (delimiter ++ after)
    rw [List.nil_append, ← List.append_assoc, ← hlist, List.length_nil, Nat.zero_add] at hslice
    have hafter : list.drop (before.length + delimiter.length) = after := by
      rw [hlist, ← List.length_append, List.drop_left]
    rw [if_neg hmore, spans_of_cut? hcut, List.head?_cons, Option.map_some, hslice, hafter]

/-- Bytes are divided at the leftmost occurrences of a delimiter, and in no other way: the spans are
the only leftmost split, a piece is found by its number, counted from one, and the first cut is made
behind the first of several spans. An empty delimiter divides nothing. -/
theorem spans_leftmost (delimiter buffer : List UInt8) :
    (delimiter ≠ [] → ∀ ranges,
        LeftmostSplit delimiter buffer ranges ↔ ranges = Delimited.spans delimiter buffer) ∧
      (∀ i, segment? delimiter buffer i =
        if i = 0 then none
        else (Delimited.spans delimiter buffer)[i - 1]?.map (slice buffer)) ∧
      (cut? delimiter buffer =
        if (Delimited.spans delimiter buffer).length = 1 then none
        else (Delimited.spans delimiter buffer).head?.map fun span =>
          (slice buffer span, buffer.drop (span.2 + delimiter.length))) ∧
      (delimiter = [] →
        Delimited.spans delimiter buffer = [(0, buffer.length)] ∧
          cut? delimiter buffer = none) := by
  refine ⟨fun hdelimiter _ => leftmostSplit_iff hdelimiter, fun i => ?_,
    cut?_eq_spans delimiter buffer, ?_⟩
  · cases i with
    | zero => rfl
    | succ n =>
      rw [segment?, segments_eq_map_slice, List.getElem?_map, if_neg (Nat.succ_ne_zero n),
        Nat.add_sub_cancel]
  · rintro rfl
    exact ⟨spans_of_cut?_eq_none (cut?_nil buffer), cut?_nil buffer⟩

/-- Of overlapping occurrences the left one divides the bytes. -/
theorem spans_leftmost_overlapping :
    ([7, 7] : List UInt8) ≠ [] ∧ LeftmostSplit [7, 7] ([7, 7, 7] : List UInt8) [(0, 0), (2, 3)] ∧
      ¬ LeftmostSplit [7, 7] ([7, 7, 7] : List UInt8) [(0, 1), (3, 3)] ∧
      segment? [7, 7] ([7, 7, 7] : List UInt8) 2 = some [7] := by
  have hdelimiter : ([7, 7] : List UInt8) ≠ [] := by decide
  obtain ⟨hsplit, hsegment, -⟩ := spans_leftmost [7, 7] [7, 7, 7]
  refine ⟨hdelimiter, (hsplit hdelimiter _).mpr (by decide), fun h => ?_, hsegment 2⟩
  exact absurd ((hsplit hdelimiter _).mp h) (by decide)

end RelationGateway.Delimited
