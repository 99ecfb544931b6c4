import RelationGateway.Proofs.Route.Documented
import RelationGateway.Route.Anchored

/-!
# Anchored patterns

A pattern is anchored by its text: a sign is put in front of it and another one behind it. If what
stands between them is one row, a path is matched as a whole or not at all, whatever library reads
the expression. In a choice between alternatives the first anchor belongs to the first of them only
and the last one to the last, so a path can be routed of which a part is matched.

* `Route.inner`: what stands between the anchors;
* `Route.accepts_iff_matchesWhole`: routes whose patterns are rows;
* `Route.accepts_part_of_bar`: a route with a bar in its pattern that accepts paths of which only
  the beginning or the end is matched.
-/

namespace RelationGateway.Route

/-- What stands between the anchors. -/
def inner (pattern : String) : String :=
  String.ofList (anchored pattern).toList.tail.dropLast

/-- Every pattern gets an anchor at both ends. -/
theorem anchored_eq (pattern : String) : anchored pattern = "^" ++ inner pattern ++ "$" := by
  obtain ⟨between, hbetween⟩ : ∃ between, (anchored pattern).toList = '^' :: (between ++ ['$']) := by
    unfold anchored
    split
    next hanchors =>
      obtain ⟨hstart, hfinish⟩ := Bool.and_eq_true_iff.mp hanchors
      obtain ⟨cs, hcs⟩ := List.head?_eq_some_iff.mp (beq_iff_eq.mp hstart)
      have hlast := beq_iff_eq.mp hfinish
      rw [hcs] at hlast ⊢
      cases cs with
      | nil => cases hlast
      | cons c cs =>
        rw [List.getLast?_cons_cons] at hlast
        obtain ⟨between, hbetween⟩ := List.getLast?_eq_some_iff.mp hlast
        exact ⟨between, by rw [hbetween]⟩
    next => exact ⟨(Text.trimEndBy (· == '$') (Text.trimStartBy (· == '^') pattern)).toList, by simp⟩
  refine String.toList_inj.mp ?_
  simp [inner, hbetween]

variable {m : Type → Type}

/-- A checked route is the route that would have been made without the check. -/
theorem eq_handler_of_checked {library : Library} {method : Http.Method} {pattern : String}
    {run : Request → m Run} {h : Handler m}
    (hh : checkedHandler method pattern run library = .ok h) :
    h = handler method pattern run library := by
  unfold checkedHandler at hh
  cases hchecked : checked pattern library with
  | error failure => simp [hchecked, Except.map] at hh
  | ok text =>
    rw [hchecked] at hh
    exact (Except.ok.inj hh).symm

theorem checkedHandler_eq_ok {library : Library} {method : Http.Method} {pattern : String}
    {run : Request → m Run} (hpattern : ¬ pattern.isEmpty)
    (husable : (library.compile? (anchored pattern)).isSome) :
    checkedHandler method pattern run library = .ok (handler method pattern run library) := by
  rw [checkedHandler, checked, if_neg hpattern, if_pos husable]
  rfl

/-- A route whose pattern is a row between its anchors, checked or not, accepts the requests with
its method for the paths that its expression matches from their first character to their last. The
expression matches no other part of any path, and it matches those that the row matches as a
whole. -/
theorem accepts_iff_matchesWhole {library : Library} (docs : library.Documented)
    {method asked : Http.Method} {pattern path : String} {run : Request → m Run} {h : Handler m}
    (hrow : library.Row (inner pattern))
    (hh : h = handler method pattern run library ∨
      checkedHandler method pattern run library = .ok h) :
    (h.accepts path asked ↔ asked = method ∧ (library.compile? (anchored pattern)).isSome ∧
        docs.Matches (anchored pattern) path 0 path.length) ∧
      (∀ i j, docs.Matches (anchored pattern) path i j → i = 0 ∧ j = path.length) ∧
      (docs.Matches (anchored pattern) path 0 path.length ↔
        docs.Matches (inner pattern) path 0 path.length) := by
  have hmatches (i j : Nat) : docs.Matches (anchored pattern) path i j ↔
      i = 0 ∧ j = path.length ∧ docs.Matches (inner pattern) path 0 path.length := by
    rw [anchored_eq pattern]
    exact docs.matches_anchored_iff hrow
  refine ⟨?_, fun i j hmatch => ?_, by simp [hmatches]⟩
  · have hhandler : h = handler method pattern run library := hh.elim id eq_handler_of_checked
    cases htest : library.compile? (anchored pattern) with
    | none => simp [hhandler, handler, htest]
    | some test =>
      have hsome := docs.test_iff htest path
      simp only [hmatches] at hsome
      simp [hhandler, handler, htest, hsome, hmatches]
  · obtain ⟨hi, hj, -⟩ := (hmatches i j).mp hmatch
    exact ⟨hi, hj⟩

/-- A checked route that answers every request with the status 200. -/
def welcoming (pattern : String) : Except Failure (Handler Id) :=
  checkedHandler .get pattern fun _ => { ending := .answered 200 }

/-- A number or a word is matched with all that stands around it. -/
theorem accepts_iff_matchesWhole_number :
    Library.ofRegex.Row (inner "/items/([0-9]+|new)") ∧
      ∃ h, welcoming "/items/([0-9]+|new)" = .ok h ∧
        h.accepts "/items/70" .get ∧ ¬ h.accepts "/items/70/tags" .get := by
  have hrow : Library.ofRegex.Row (inner "/items/([0-9]+|new)") := by
    have hparts : inner "/items/([0-9]+|new)" =
        "/items/" ++ ("(" ++ "" ++ "[0-9]+|new" ++ ")") :=
      String.toList_inj.mp (by decide +kernel)
    rw [hparts]
    exact .append
      (.plain (by decide +kernel) (by decide) (Library.not_setsFlags_of_not_mem (by decide)))
      (.group .numbered (by decide +kernel) (by decide +kernel))
  have husable : (Library.ofRegex.compile? (anchored "/items/([0-9]+|new)")).isSome := by
    decide +kernel
  have hchecked : welcoming "/items/([0-9]+|new)" = .ok _ :=
    checkedHandler_eq_ok (by decide) husable
  have hread : (Regex.read? (anchored "/items/([0-9]+|new)")).isSome := by decide +kernel
  refine ⟨hrow, _, hchecked, ?_, fun h => ?_⟩
  · have hwhole : Library.MatchesAsRead (anchored "/items/([0-9]+|new)") "/items/70" 0 9 :=
      (Library.matchesAsRead_iff_ends hread).mpr (by decide +kernel)
    exact (accepts_iff_matchesWhole .ofRegex hrow (.inr hchecked)).1.mpr
      ⟨rfl, husable, hwhole⟩
  · obtain ⟨-, -, hwhole⟩ := (accepts_iff_matchesWhole .ofRegex hrow (.inr hchecked)).1.mp h
    exact absurd ((Library.matchesAsRead_iff_ends hread).mp hwhole) (by decide +kernel)

/-- In a pattern with a bar the anchors belong to one alternative each. A path that begins with the
first alternative and one that ends with the last are accepted, though the expression matches
neither from its first character to its last. -/
theorem accepts_part_of_bar :
    ∃ h, welcoming "/items|/users" = .ok h ∧
      h.accepts "/items/secret" .get ∧ h.accepts "/old/users" .get ∧
      ¬ Library.Documented.ofRegex.Matches (anchored "/items|/users") "/items/secret" 0
        "/items/secret".length ∧
      ¬ Library.Documented.ofRegex.Matches (anchored "/items|/users") "/old/users" 0
        "/old/users".length := by
  have hchecked : welcoming "/items|/users" = .ok _ :=
    checkedHandler_eq_ok (by decide) (by decide +kernel)
  have hread : (Regex.read? (anchored "/items|/users")).isSome := by decide +kernel
  refine ⟨_, hchecked, by decide +kernel, by decide +kernel, ?_, ?_⟩
  · exact fun h => absurd ((Library.matchesAsRead_iff_ends hread).mp h) (by decide +kernel)
  · exact fun h => absurd ((Library.matchesAsRead_iff_ends hread).mp h) (by decide +kernel)

end RelationGateway.Route
