import Mathlib.Data.List.Induction
import Mathlib.Data.List.TakeWhile
import RelationGateway.Gateway.Basic

/-!
# Which handler answers

A gateway is put together from handlers, places for audit entries and settings, in any order. Its
table of handlers is the stable sort of the registered handlers by the slashes in their patterns,
so the first handler of the table that accepts a request is the most specific one.

* `Arranged`: the table holds the registered handlers, the deepest first and otherwise in the order
  in which they were registered;
* `Arranged.insert`, `Arranged.unique`: registering one more handler keeps a table arranged, and
  there is only one arranged table;
* `handlers_withHandler`: registering a handler sorts the table again with the handler behind it;
* `Addition`, `assembled`, `handlers_assembled`: the table of a gateway is one stable sort;
* `MostSpecific`, `handler?_assembled`: which handler answers.
-/

namespace RelationGateway.Gateway

variable {m : Type → Type}

/-! ## Tables of handlers -/

section Tables

variable {registered table : List (Handler m)}

/-- The table holds the registered handlers, the deepest first. -/
structure Arranged (registered table : List (Handler m)) : Prop where
  /-- No handler stands before a deeper one. -/
  sorted : table.Pairwise fun h later => later.depth ≤ h.depth
  /-- The handlers of one depth stand in the order in which they were registered. -/
  stable : ∀ depth, table.filter (·.depth == depth) = registered.filter (·.depth == depth)

/-- A table holds the handlers that were registered and no others. -/
theorem Arranged.mem_iff (harranged : Arranged registered table) {h : Handler m} :
    h ∈ table ↔ h ∈ registered := by
  have hdepth := congrArg (h ∈ ·) (harranged.stable h.depth)
  simpa using hdepth

/-- Behind the handlers of a table that are deep enough, none is. -/
theorem depth_lt_of_mem_dropWhile
    (hsorted : table.Pairwise fun h later => later.depth ≤ h.depth) {depth : Nat} {h : Handler m}
    (hmem : h ∈ table.dropWhile (depth ≤ ·.depth)) : h.depth < depth := by
  induction table with
  | nil => cases hmem
  | cons first rest ih =>
    obtain ⟨hfirst, hrest⟩ := List.pairwise_cons.mp hsorted
    by_cases hdeep : depth ≤ first.depth
    · rw [List.dropWhile_cons_of_pos (by simpa using hdeep)] at hmem
      exact ih hrest hmem
    · rw [List.dropWhile_cons_of_neg (by simpa using hdeep)] at hmem
      have hlt : first.depth < depth := Nat.lt_of_not_le hdeep
      rcases List.mem_cons.mp hmem with rfl | hmem
      · exact hlt
      · exact Nat.lt_of_le_of_lt (hfirst h hmem) hlt

/-- A table stays arranged when a handler is put behind all that are at least as deep. -/
theorem Arranged.insert (harranged : Arranged registered table) (new : Handler m) :
    Arranged (registered ++ [new])
      (table.takeWhile (new.depth ≤ ·.depth) ++ new :: table.dropWhile (new.depth ≤ ·.depth)) := by
  have hfront : ∀ h ∈ table.takeWhile (new.depth ≤ ·.depth), new.depth ≤ h.depth := by
    intro h hmem
    simpa using List.mem_takeWhile_imp hmem
  have hback : ∀ h ∈ table.dropWhile (new.depth ≤ ·.depth), h.depth < new.depth :=
    fun h => depth_lt_of_mem_dropWhile harranged.sorted
  have hsplit : table.takeWhile (new.depth ≤ ·.depth) ++ table.dropWhile (new.depth ≤ ·.depth) =
      table := List.takeWhile_append_dropWhile
  generalize table.takeWhile (new.depth ≤ ·.depth) = front at *
  generalize table.dropWhile (new.depth ≤ ·.depth) = back at *
  subst hsplit
  obtain ⟨hsortedFront, hsortedBack, hcross⟩ := List.pairwise_append.mp harranged.sorted
  constructor
  · -- In front of the new handler all are as deep as it is, and behind it none.
    refine List.pairwise_append.mpr ⟨hsortedFront, List.pairwise_cons.mpr ⟨?_, hsortedBack⟩, ?_⟩
    · exact fun h hmem => Nat.le_of_lt (hback h hmem)
    · intro h hmem
      exact List.forall_mem_cons.mpr ⟨hfront h hmem, hcross h hmem⟩
  · intro depth
    rw [List.filter_append registered, ← harranged.stable depth, List.filter_append,
      List.filter_append, List.append_assoc]
    congr 1
    by_cases hdepth : new.depth = depth
    · -- Of the new handler's depth there is none behind it.
      have hnone : back.filter (·.depth == depth) = [] := by
        rw [List.filter_eq_nil_iff]
        intro h hmem
        have hlt := hback h hmem
        simp only [beq_iff_eq]
        omega
      rw [List.filter_cons_of_pos (by simpa using hdepth), hnone,
        List.filter_cons_of_pos (by simpa using hdepth), List.filter_nil, List.nil_append]
    · rw [List.filter_cons_of_neg (by simpa using hdepth),
        List.filter_cons_of_neg (by simpa using hdepth), List.filter_nil, List.append_nil]

/-- A list that is sorted already is the only table arranged from it. -/
theorem Arranged.eq_of_sorted
    (hsorted : registered.Pairwise fun h later => later.depth ≤ h.depth)
    (harranged : Arranged registered table) : table = registered := by
  induction registered generalizing table with
  | nil =>
    rw [List.eq_nil_iff_forall_not_mem]
    exact fun h => mt harranged.mem_iff.mp List.not_mem_nil
  | cons first rest ih =>
    have hfirst : first ∈ table := harranged.mem_iff.mpr List.mem_cons_self
    cases table with
    | nil => cases hfirst
    | cons top below =>
      have htop : top ∈ first :: rest := harranged.mem_iff.mp List.mem_cons_self
      obtain ⟨hleRest, hsortedRest⟩ := List.pairwise_cons.mp hsorted
      obtain ⟨hleBelow, hsortedBelow⟩ := List.pairwise_cons.mp harranged.sorted
      -- Both first handlers are as deep as any, so they are the first of that depth.
      have hdepth : top.depth = first.depth := by
        apply Nat.le_antisymm
        · rcases List.mem_cons.mp htop with rfl | hmem
          · exact Nat.le_refl _
          · exact hleRest top hmem
        · rcases List.mem_cons.mp hfirst with rfl | hmem
          · exact Nat.le_refl _
          · exact hleBelow first hmem
      have hsame := harranged.stable first.depth
      rw [List.filter_cons_of_pos (by simpa using hdepth),
        List.filter_cons_of_pos (by simp)] at hsame
      obtain ⟨rfl, -⟩ := List.cons.inj hsame
      refine congrArg (top :: ·) (ih hsortedRest ⟨hsortedBelow, fun depth => ?_⟩)
      have hstable := harranged.stable depth
      rw [List.filter_cons, List.filter_cons] at hstable
      split at hstable
      · exact (List.cons.inj hstable).2
      · exact hstable

/-- From registered handlers only one table can be arranged. -/
theorem Arranged.unique {other : List (Handler m)} (harranged : Arranged registered table)
    (hother : Arranged registered other) : other = table :=
  eq_of_sorted harranged.sorted
    ⟨hother.sorted, fun depth => (hother.stable depth).trans (harranged.stable depth).symm⟩

/-- A stable sort by depth arranges the handlers. -/
theorem arranged_mergeSort (registered : List (Handler m)) :
    Arranged registered (registered.mergeSort fun h later => later.depth ≤ h.depth) := by
  have htrans : ∀ a b c : Handler m, decide (b.depth ≤ a.depth) = true →
      decide (c.depth ≤ b.depth) = true → decide (c.depth ≤ a.depth) = true := by
    simp only [decide_eq_true_eq]
    exact fun a b c hab hbc => Nat.le_trans hbc hab
  have htotal : ∀ a b : Handler m,
      (decide (b.depth ≤ a.depth) || decide (a.depth ≤ b.depth)) = true := by
    simp only [Bool.or_eq_true, decide_eq_true_eq]
    exact fun a b => Nat.le_total b.depth a.depth
  constructor
  · simpa only [decide_eq_true_eq] using List.pairwise_mergeSort htrans htotal registered
  · intro depth
    -- The handlers of one depth are a sorted part of the list, and sorting keeps such a part.
    have hlevel : (registered.filter (·.depth == depth)).Pairwise
        fun h later => decide (later.depth ≤ h.depth) = true := by
      refine List.pairwise_of_forall_mem_list fun h hmem later hlater => ?_
      have hh : h.depth = depth := by simpa using (List.mem_filter.mp hmem).2
      have hl : later.depth = depth := by simpa using (List.mem_filter.mp hlater).2
      exact decide_eq_true (by omega)
    have hkept := (List.sublist_mergeSort htrans htotal hlevel List.filter_sublist).filter
      (·.depth == depth)
    simp only [List.filter_filter, Bool.and_self] at hkept
    exact (hkept.eq_of_length ((List.mergeSort_perm registered _).filter _).length_eq.symm).symm

/-! ## The most specific handler -/

variable {path : String} {method : Http.Method} {h : Handler m}

/-- Of the registered handlers that accept a path and a method, this one is the deepest, and of
several that are as deep the one that was registered first. -/
structure MostSpecific (registered : List (Handler m)) (path : String) (method : Http.Method)
    (h : Handler m) : Prop where
  /-- The handler accepts the path and the method. -/
  accepts : h.accepts path method
  /-- None that accepts them is deeper. -/
  deepest : ∀ other ∈ registered, other.accepts path method → other.depth ≤ h.depth
  /-- None that accepts them and is as deep was registered before. -/
  first : ∃ before after, registered = before ++ h :: after ∧
    ∀ other ∈ before, other.accepts path method → other.depth ≠ h.depth

/-- The most specific handler was registered. -/
theorem MostSpecific.mem (hspecific : MostSpecific registered path method h) : h ∈ registered := by
  obtain ⟨before, after, rfl, -⟩ := hspecific.first
  simp

/-- Being registered first is being found first among the handlers of one depth. -/
theorem find?_level_eq_some_iff (haccepts : h.accepts path method) :
    (registered.filter (·.depth == h.depth)).find? (·.accepts path method) = some h ↔
      ∃ before after, registered = before ++ h :: after ∧
        ∀ other ∈ before, other.accepts path method → other.depth ≠ h.depth := by
  rw [List.find?_filter, List.find?_eq_some_iff_append]
  have hother (other : Handler m) :
      (!decide ((other.depth == h.depth) = true ∧ other.accepts path method = true)) = true ↔
        (other.accepts path method → other.depth ≠ h.depth) := by
    simp only [Bool.not_eq_true', decide_eq_false_iff_not, beq_iff_eq, not_and, ne_eq]
    exact ⟨fun hnot ha hd => hnot hd ha, fun hne hd ha => hne ha hd⟩
  simp only [hother, haccepts, beq_self_eq_true, and_self, decide_true, true_and]

/-- There is only one most specific handler. -/
theorem MostSpecific.unique {other : Handler m} (hspecific : MostSpecific registered path method h)
    (hother : MostSpecific registered path method other) : other = h := by
  have hdepth : other.depth = h.depth :=
    Nat.le_antisymm (hspecific.deepest other hother.mem hother.accepts)
      (hother.deepest h hspecific.mem hspecific.accepts)
  -- So both are found first in one level.
  have hfound := (find?_level_eq_some_iff hspecific.accepts).mpr hspecific.first
  have hfoundOther := (find?_level_eq_some_iff hother.accepts).mpr hother.first
  rw [hdepth, hfound] at hfoundOther
  exact (Option.some.inj hfoundOther).symm

/-- The first handler of an arranged table that accepts a path and a method is the most specific
one. -/
theorem Arranged.mostSpecific_of_find? (harranged : Arranged registered table)
    (hfind : table.find? (·.accepts path method) = some h) :
    MostSpecific registered path method h := by
  obtain ⟨haccepts, before, after, htable, hbefore⟩ := List.find?_eq_some_iff_append.mp hfind
  have hnone : ∀ other ∈ before, ¬ other.accepts path method := by simpa using hbefore
  refine ⟨haccepts, fun other hmem hother => ?_, ?_⟩
  · -- A deeper one would stand before, where none accepts.
    have hsorted := harranged.sorted
    rw [← harranged.mem_iff, htable] at hmem
    rw [htable] at hsorted
    rcases List.mem_append.mp hmem with hmem | hmem
    · exact absurd hother (hnone other hmem)
    · rcases List.mem_cons.mp hmem with rfl | hmem
      · exact Nat.le_refl _
      · exact (List.pairwise_cons.mp (List.pairwise_append.mp hsorted).2.1).1 other hmem
  · -- Its level stands in the table as it was registered.
    rw [← find?_level_eq_some_iff haccepts, ← harranged.stable,
      find?_level_eq_some_iff haccepts]
    exact ⟨before, after, htable, fun other hmem hother => absurd hother (hnone other hmem)⟩

/-- In an arranged table exactly the most specific handler is found. -/
theorem Arranged.find?_eq_some_iff (harranged : Arranged registered table) :
    table.find? (·.accepts path method) = some h ↔ MostSpecific registered path method h := by
  refine ⟨harranged.mostSpecific_of_find?, fun hspecific => ?_⟩
  cases hfind : table.find? (·.accepts path method) with
  | none =>
    have hmem := harranged.mem_iff.mpr hspecific.mem
    exact absurd hspecific.accepts (List.find?_eq_none.mp hfind h hmem)
  | some other => rw [hspecific.unique (harranged.mostSpecific_of_find? hfind)]

end Tables

/-! ## Gateways put together -/

/-- Registering a handler is putting it behind the others and sorting the table again. -/
theorem handlers_withHandler {g : Gateway m}
    (hsorted : g.handlers.Pairwise fun h later => later.depth ≤ h.depth) (new : Handler m) :
    (g.withHandler new).handlers =
      (g.handlers ++ [new]).mergeSort fun h later => later.depth ≤ h.depth := by
  have hself : Arranged g.handlers g.handlers := ⟨hsorted, fun _ => rfl⟩
  exact (arranged_mergeSort _).unique (hself.insert new)

/-- What a gateway is put together from. -/
inductive Addition (m : Type → Type) where
  /-- Registers a handler. -/
  | handler (h : Handler m)
  /-- Adds a place for audit entries. -/
  | sink (sink : Audit.Sink m)
  /-- Gives the gateway other settings. -/
  | settings (settings : Settings)

/-- The gateway with an addition. -/
def add (g : Gateway m) : Addition m → Gateway m
  | .handler h => g.withHandler h
  | .sink sink => g.withSink sink
  | .settings settings => g.withSettings settings

/-- The gateway put together from additions, one after the other. -/
def assembled (additions : List (Addition m)) : Gateway m := additions.foldl add {}

/-- The handler that an addition registers, if it registers one. -/
def Addition.handler? : Addition m → Option (Handler m)
  | .handler h => some h
  | .sink _ | .settings _ => none

/-- The handlers that additions register, in their order. -/
def registered (additions : List (Addition m)) : List (Handler m) :=
  additions.filterMap Addition.handler?

/-- An addition keeps the table arranged. -/
theorem arranged_add {g : Gateway m} {additions : List (Addition m)}
    (harranged : Arranged (registered additions) g.handlers) (addition : Addition m) :
    Arranged (registered (additions ++ [addition])) (g.add addition).handlers := by
  rw [registered, List.filterMap_append]
  cases addition with
  | handler h => exact harranged.insert h
  | sink | settings =>
    -- Neither touches the table.
    rw [List.filterMap_cons_none rfl, List.filterMap_nil, List.append_nil]
    exact harranged

/-- The table of a gateway is arranged, in whatever order it was put together. -/
theorem arranged_assembled (additions : List (Addition m)) :
    Arranged (registered additions) (assembled additions).handlers := by
  -- Each addition comes last, so the induction is from the end.
  induction additions using List.reverseRecOn with
  | nil => exact ⟨.nil, fun _ => rfl⟩
  | append_singleton additions addition ih =>
    rw [assembled, List.foldl_append]
    exact arranged_add ih addition

/-- The table of a gateway is one stable sort of the handlers that were registered. -/
theorem handlers_assembled (additions : List (Addition m)) :
    (assembled additions).handlers =
      (registered additions).mergeSort fun h later => later.depth ≤ h.depth :=
  (arranged_mergeSort _).unique (arranged_assembled additions)

/-- A gateway has no handler for a path and a method exactly if none that was registered accepts
them. Otherwise it has the most specific one: none that accepts them has more slashes in its
pattern, and of those with as many slashes it was registered first. Places for audit entries and
settings that are added between make no difference. -/
theorem handler?_assembled (additions : List (Addition m)) (path : String)
    (method : Http.Method) :
    ((assembled additions).handler? path method = none ↔
        ∀ h ∈ registered additions, ¬ h.accepts path method) ∧
      (∀ h, (assembled additions).handler? path method = some h ↔
        MostSpecific (registered additions) path method h) ∧
      (assembled additions).handler? path method =
        (assembled ((registered additions).map .handler)).handler? path method := by
  have harranged := arranged_assembled additions
  refine ⟨?_, fun h => harranged.find?_eq_some_iff, ?_⟩
  · rw [handler?, List.find?_eq_none]
    simp only [harranged.mem_iff]
  · have hsame : registered ((registered additions).map .handler) = registered additions := by
      rw [registered, List.filterMap_map]
      exact List.filterMap_some
    rw [handler?, handler?, handlers_assembled, handlers_assembled, hsame]

/-- Of handlers that accept the same, the first of the deepest answers. -/
example :
    let handler (pattern : String) : Handler Id :=
      { pattern, accepts := fun _ _ => true, run := fun _ => { ending := .answered 200 } }
    let additions : List (Addition Id) :=
      [.handler (handler "/a"), .handler (handler "/a/b"), .settings {}, .handler (handler "/b/a")]
    ((assembled additions).handler? "/a/b" .get).map (·.pattern) = some "/a/b" := by
  decide

end RelationGateway.Gateway
