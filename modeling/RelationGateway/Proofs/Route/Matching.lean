import Mathlib.Logic.Function.Iterate
import RelationGateway.Route.Regex

/-!
# What regular expressions match

`Regex.Matches` says from which place of a text to which an expression matches, one case for each
kind of expression. A search computes where matches end from all places where they begin at once,
and does not follow a repetition to places that it has found before. It finds all matches and
nothing else.

* `Regex.Steps`: steps one after the other, and `steps_iff_of_lt`: how many matter;
* `Regex.mem_spread_iff`: a search by rounds finds what some number of steps leads to;
* `Regex.computes_ends`: where matches can end;
* `Regex.occursIn_iff`: whether there is a match.
-/

namespace RelationGateway.Regex

/-! ## Steps -/

/-- A number of steps lead from one place to another. -/
def Steps (R : Nat → Nat → Prop) : (steps : Nat) → Nat → Nat → Prop
  | 0, i, j => i = j
  | n + 1, i, j => ∃ k, Steps R n i k ∧ R k j

/-- No step leads back, and none but those that stay leads beyond the end of a text. -/
def Forward (size : Nat) (R : Nat → Nat → Prop) : Prop := ∀ i j, R i j → i ≤ j ∧ (j = i ∨ j ≤ size)

section Steps

variable {R : Nat → Nat → Prop} {size n m i j : Nat}

theorem steps_add : Steps R (n + m) i j ↔ ∃ k, Steps R n i k ∧ Steps R m k j := by
  induction m generalizing j with
  | zero => simp [Steps]
  | succ m ih =>
    rw [← Nat.add_assoc]
    simp only [Steps, ih]
    constructor
    · rintro ⟨l, ⟨k, hfront, hmiddle⟩, hlast⟩
      exact ⟨k, hfront, l, hmiddle, hlast⟩
    · rintro ⟨k, hfront, l, hmiddle, hlast⟩
      exact ⟨l, ⟨k, hfront, hmiddle⟩, hlast⟩

theorem Forward.steps (hR : Forward size R) : Forward size (Steps R n) := by
  intro i j
  induction n generalizing j with
  | zero =>
    rintro rfl
    exact ⟨Nat.le_refl _, .inl rfl⟩
  | succ n ih =>
    rintro ⟨k, hfront, hlast⟩
    have hk := ih k hfront
    have hj := hR k j hlast
    omega

/-- What some steps lead to, no more of them lead to than there are places to go on. -/
theorem exists_steps_le (hR : Forward size R) (h : Steps R n i j) :
    ∃ k ≤ size, Steps R k i j := by
  have hsub : ∃ k ≤ j - i, Steps R k i j := by
    induction n generalizing j with
    | zero => exact ⟨0, Nat.zero_le _, h⟩
    | succ n ih =>
      obtain ⟨l, hfront, hlast⟩ := h
      obtain ⟨k, hk, hsteps⟩ := ih hfront
      -- The last step is left out if it stays.
      rcases Nat.eq_or_lt_of_le (hR l j hlast).1 with rfl | hlt
      · exact ⟨k, hk, hsteps⟩
      · have hle := (hR.steps i l hfront).1
        exact ⟨k + 1, by omega, l, hsteps, hlast⟩
  obtain ⟨k, hk, hsteps⟩ := hsub
  have hfar := hR.steps i j h
  exact ⟨k, by omega, hsteps⟩

/-- In more steps than the text has places one stays where it is, and can be left out or made once
more. -/
theorem steps_succ_iff (hR : Forward size R) (h : size < n) :
    Steps R (n + 1) i j ↔ Steps R n i j := by
  have hout : ∀ {n j : Nat}, Steps R (n + 1) i j → Steps R n i j ∨ n + 1 ≤ j - i := by
    intro n
    induction n with
    | zero =>
      rintro j ⟨_, rfl, hlast⟩
      rcases Nat.eq_or_lt_of_le (hR i j hlast).1 with rfl | hlt
      · exact .inl rfl
      · exact .inr (by omega)
    | succ n ih =>
      rintro j ⟨k, hfront, hlast⟩
      rcases ih hfront with hless | hmany
      · exact .inl ⟨k, hless, hlast⟩
      · rcases Nat.eq_or_lt_of_le (hR k j hlast).1 with rfl | hlt
        · exact .inl hfront
        · exact .inr (by omega)
  have hin : ∀ {n j : Nat}, Steps R n i j → Steps R (n + 1) i j ∨ n ≤ j - i := by
    intro n
    induction n with
    | zero => exact fun _ => .inr (Nat.zero_le _)
    | succ n ih =>
      rintro j ⟨k, hfront, hlast⟩
      rcases ih hfront with hmore | hmany
      · exact .inl ⟨k, hmore, hlast⟩
      · rcases Nat.eq_or_lt_of_le (hR k j hlast).1 with rfl | hlt
        · exact .inl ⟨k, ⟨k, hfront, hlast⟩, hlast⟩
        · have hle := (hR.steps i k hfront).1
          exact .inr (by omega)
  constructor
  · intro hsteps
    have hfar := hR.steps i j hsteps
    exact (hout hsteps).resolve_right (by omega)
  · intro hsteps
    have hfar := hR.steps i j hsteps
    exact (hin hsteps).resolve_right (by omega)

/-- Of more steps than the text has places it does not matter how many they are. -/
theorem steps_iff_of_lt (hR : Forward size R) (hn : size < n) (hm : size < m) :
    Steps R n i j ↔ Steps R m i j := by
  have hleast (d : Nat) : Steps R (size + 1 + d) i j ↔ Steps R (size + 1) i j := by
    induction d with
    | zero => exact .rfl
    | succ d ih =>
      exact (steps_succ_iff hR (Nat.lt_add_right d (Nat.lt_succ_self size))).trans ih
  obtain ⟨d, rfl⟩ := Nat.exists_eq_add_of_le (Nat.succ_le_of_lt hn)
  obtain ⟨e, rfl⟩ := Nat.exists_eq_add_of_le (Nat.succ_le_of_lt hm)
  exact (hleast d).trans (hleast e).symm

end Steps

/-! ## Searching by rounds -/

/-- The places that a step computes from others are those where the relation leads from them. -/
def Computes (step : List Nat → List Nat) (R : Nat → Nat → Prop) : Prop :=
  ∀ places j, j ∈ step places ↔ ∃ i ∈ places, R i j

section Rounds

variable {step : List Nat → List Nat} {R : Nat → Nat → Prop} {n j : Nat}

theorem Computes.iterate (hstep : Computes step R) : Computes step^[n] (Steps R n) := by
  intro places j
  induction n generalizing j with
  | zero => simp [Steps]
  | succ n ih =>
    rw [Function.iterate_succ_apply', hstep]
    simp only [Steps, ih]
    constructor
    · rintro ⟨k, ⟨i, hi, hfront⟩, hlast⟩
      exact ⟨i, hi, k, hfront, hlast⟩
    · rintro ⟨i, hi, k, hfront, hlast⟩
      exact ⟨k, ⟨i, hi, hfront⟩, hlast⟩

/-- A step that changes nothing is the last that has to be made. -/
theorem march_eq (step : List Nat → List Nat) (n : Nat) (places : List Nat) :
    march step n places = (step^[n] places, step^[n + 1] places) := by
  induction n generalizing places with
  | zero => rfl
  | succ n ih =>
    rw [march]
    split
    next hfixed => rw [Function.iterate_fixed hfixed, Function.iterate_fixed hfixed]
    next => exact ih (step places)

theorem mem_unseen {seen places : List Nat} :
    j ∈ unseen seen places ↔ j ∈ places ∧ j ∉ seen := by
  have hfold : ∀ new, j ∈ places.foldl
      (fun new p => if seen.contains p || new.contains p then new else new ++ [p]) new ↔
        j ∈ new ∨ j ∈ places ∧ j ∉ seen := by
    induction places with
    | nil => simp
    | cons p rest ih =>
      intro new
      rw [List.foldl_cons, ih]
      by_cases hp : p ∈ seen ∨ p ∈ new
      · rw [if_pos (by simpa using hp)]
        grind
      · rw [if_neg (by simpa using hp)]
        grind
  simpa [unseen] using hfold []

/-- A search by rounds finds what some number of steps leads to. The steps from a found place are in
the frontier, or where they lead to has been found too. -/
theorem mem_spread_iff (hstep : Computes step R) {settled frontier found : List Nat}
    (hsettled : ∀ i ∈ settled, ∀ j, R i j → j ∈ found) (hfrontier : frontier ⊆ found)
    (hfound : ∀ i ∈ found, i ∈ frontier ∨ ∀ j, R i j → j ∈ found) :
    j ∈ spread step settled n frontier found ↔ ∃ k ≤ n, ∃ i ∈ found, Steps R k i j := by
  induction n generalizing frontier found with
  | zero => simp [spread, Steps]
  | succ n ih =>
    cases frontier with
    | nil =>
      -- Without a frontier steps lead to nothing new.
      have hclosed : ∀ {k j : Nat}, (∃ i ∈ found, Steps R k i j) → j ∈ found := by
        intro k
        induction k with
        | zero => simp [Steps]
        | succ k ih =>
          rintro j ⟨i, hi, l, hfront, hlast⟩
          have hl := ih ⟨i, hi, hfront⟩
          exact (hfound l hl).resolve_left List.not_mem_nil j hlast
      rw [spread]
      constructor
      · exact fun hj => ⟨0, Nat.zero_le _, j, hj, rfl⟩
      · exact fun ⟨_, _, hsteps⟩ => hclosed hsteps
    | cons first others =>
      have hnew (j : Nat) : j ∈ unseen found (step (first :: others)) ↔
          (∃ i ∈ (first :: others), R i j) ∧ j ∉ found := by
        rw [mem_unseen, hstep]
      -- One round finds where one step leads to.
      have hround (j : Nat) : j ∈ found ++ unseen found (step (first :: others)) ↔
          j ∈ found ∨ ∃ i ∈ found, R i j := by
        rw [List.mem_append, hnew]
        constructor
        · rintro (hj | ⟨⟨i, hi, hij⟩, -⟩)
          · exact .inl hj
          · exact .inr ⟨i, hfrontier hi, hij⟩
        · rintro (hj | ⟨i, hi, hij⟩)
          · exact .inl hj
          · by_cases hj : j ∈ found
            · exact .inl hj
            · exact .inr ⟨⟨i, (hfound i hi).resolve_right fun h => hj (h j hij), hij⟩, hj⟩
      rw [spread, ih]
      · constructor
        · rintro ⟨k, hk, i, hi, hsteps⟩
          rcases (hround i).mp hi with hi | ⟨l, hl, hli⟩
          · exact ⟨k, Nat.le_succ_of_le hk, i, hi, hsteps⟩
          · refine ⟨1 + k, by omega, l, hl, steps_add.mpr ⟨i, ⟨l, rfl, hli⟩, hsteps⟩⟩
        · rintro ⟨k, hk, i, hi, hsteps⟩
          cases k with
          | zero => exact ⟨0, Nat.zero_le _, i, (hround i).mpr (.inl hi), hsteps⟩
          | succ k =>
            rw [Nat.add_comm, steps_add] at hsteps
            obtain ⟨l, ⟨_, rfl, hil⟩, hrest⟩ := hsteps
            exact ⟨k, by omega, l, (hround l).mpr (.inr ⟨_, hi, hil⟩), hrest⟩
      · exact fun i hi j hij => (hround j).mpr (.inl (hsettled i hi j hij))
      · exact fun i hi => List.mem_append_right _ (mem_unseen.mp hi).1
      · intro i hi
        rcases List.mem_append.mp hi with hi | hi
        · rcases hfound i hi with hi' | hi'
          · exact .inr fun j hij => (hround j).mpr (.inr ⟨i, hi, hij⟩)
          · exact .inr fun j hij => (hround j).mpr (.inl (hi' j hij))
        · by_cases hsettle : i ∈ settled
          · exact .inr fun j hij => (hround j).mpr (.inl (hsettled i hsettle j hij))
          · exact .inl (mem_unseen.mpr ⟨hi, hsettle⟩)
      · exact List.cons_ne_nil _ _

end Rounds

/-! ## Matches -/

/-- A repetition at least and at most so many times may go this number of rounds. -/
def Allows (least : Nat) (most : Option Nat) (rounds : Nat) : Prop :=
  least ≤ rounds ∧ ∀ greatest, most = some greatest → rounds ≤ max least greatest

/-- The expression matches from one place of the text to another. -/
def Matches (text : Array Char) : Regex → Nat → Nat → Prop
  | .empty, i, j => i = j
  | .char set, i, j => j = i + 1 ∧ ∃ c, text[i]? = some c ∧ set.holds c
  | .any, i, j => j = i + 1 ∧ ∃ c, text[i]? = some c ∧ c ≠ '\n'
  | .start, i, j => i = 0 ∧ j = 0
  | .finish, i, j => i = text.size ∧ j = text.size
  | .seq first second, i, j => ∃ k, first.Matches text i k ∧ second.Matches text k j
  | .either first second, i, j => first.Matches text i j ∨ second.Matches text i j
  | .repeated body least most _, i, j =>
    ∃ rounds, Allows least most rounds ∧ Steps (body.Matches text) rounds i j
  | .group _ body, i, j => body.Matches text i j

variable {text : Array Char}

/-- A match does not go back, and not beyond the end of the text. -/
theorem forward_matches (r : Regex) : Forward text.size (r.Matches text) := by
  have hnext {i j : Nat} {c : Char} (hj : j = i + 1) (hc : text[i]? = some c) :
      i ≤ j ∧ (j = i ∨ j ≤ text.size) := by
    obtain ⟨hi, -⟩ := Array.getElem?_eq_some_iff.mp hc
    omega
  induction r with
  | empty => exact fun i j hij => ⟨Nat.le_of_eq hij, .inl hij.symm⟩
  | char set => exact fun i j ⟨hj, c, hc, _⟩ => hnext hj hc
  | any => exact fun i j ⟨hj, c, hc, _⟩ => hnext hj hc
  | start => exact fun i j ⟨hi, hj⟩ => by omega
  | finish => exact fun i j ⟨hi, hj⟩ => by omega
  | seq first second ihFirst ihSecond =>
    rintro i j ⟨k, hfirst, hsecond⟩
    have hik := ihFirst i k hfirst
    have hkj := ihSecond k j hsecond
    omega
  | either first second ihFirst ihSecond =>
    exact fun i j hij => hij.elim (ihFirst i j) (ihSecond i j)
  | repeated body least most eager ih => exact fun i j ⟨rounds, _, hsteps⟩ => ih.steps i j hsteps
  | group kind body ih => exact ih

/-- Rounds beyond the least number are found within as many more as may be made, and without a
greatest number within as many as the text has places. -/
theorem exists_steps_iff {R : Nat → Nat → Prop} {size i j : Nat} (hR : Forward size R)
    (least : Nat) (most : Option Nat) :
    (∃ k ≤ (match most with | some most => most - least | none => size + 1),
        Steps R (least + k) i j) ↔
      ∃ rounds, Allows least most rounds ∧ Steps R rounds i j := by
  cases most with
  | some most =>
    constructor
    · rintro ⟨k, hk, hsteps⟩
      refine ⟨least + k, ⟨Nat.le_add_right _ _, fun greatest h => ?_⟩, hsteps⟩
      cases h
      dsimp only at hk
      omega
    · rintro ⟨rounds, ⟨hleast, hmost⟩, hsteps⟩
      have hle := hmost most rfl
      refine ⟨rounds - least, by dsimp only; omega, ?_⟩
      rwa [Nat.add_sub_cancel' hleast]
  | none =>
    constructor
    · rintro ⟨k, -, hsteps⟩
      exact ⟨least + k, ⟨Nat.le_add_right _ _, nofun⟩, hsteps⟩
    · rintro ⟨rounds, ⟨hleast, -⟩, hsteps⟩
      obtain ⟨more, rfl⟩ := Nat.exists_eq_add_of_le hleast
      obtain ⟨l, hfront, hlast⟩ := steps_add.mp hsteps
      obtain ⟨k, hk, hfew⟩ := exists_steps_le hR hlast
      exact ⟨k, Nat.le_succ_of_le hk, steps_add.mpr ⟨l, hfront, hfew⟩⟩

/-- Where repetitions can end is computed from where their bodies can. -/
theorem computes_ends_repeated {body : Regex}
    (hbody : Computes (body.ends text) (body.Matches text)) (least : Nat) (most : Option Nat) (eager : Bool) :
    Computes ((repeated body least most eager).ends text)
      ((repeated body least most eager).Matches text) := by
  intro places j
  have hR : Forward text.size (body.Matches text) := forward_matches body
  simp only [Matches, ← exists_steps_iff hR]
  cases least with
  | zero =>
    have hends : (repeated body 0 most eager).ends text places = spread (body.ends text) []
        (match most with | some most => most - 0 | none => text.size + 1) places places := rfl
    rw [hends, mem_spread_iff hbody (fun _ hi => absurd hi List.not_mem_nil) (List.Subset.refl _)
      fun i hi => .inl hi]
    simp only [Nat.zero_add]
    constructor
    · exact fun ⟨k, hk, i, hi, hsteps⟩ => ⟨i, hi, k, hk, hsteps⟩
    · exact fun ⟨i, hi, k, hk, hsteps⟩ => ⟨k, hk, i, hi, hsteps⟩
  | succ least =>
    have hends : (repeated body (least + 1) most eager).ends text places =
        spread (body.ends text) (march (body.ends text) (min least text.size) places).1
          (match most with | some most => most - (least + 1) | none => text.size + 1)
          (unseen (march (body.ends text) (min least text.size) places).1
            (march (body.ends text) (min least text.size) places).2)
          (march (body.ends text) (min least text.size) places).2 := rfl
    rw [hends, march_eq]
    dsimp only
    have hsettled : ∀ i ∈ (body.ends text)^[min least text.size] places, ∀ j,
        body.Matches text i j → j ∈ (body.ends text)^[min least text.size + 1] places := by
      intro i hi j hij
      rw [Function.iterate_succ_apply', hbody]
      exact ⟨i, hi, hij⟩
    rw [mem_spread_iff hbody hsettled fun i hi => (mem_unseen.mp hi).1]
    · -- Beyond the places of the text it does not matter how many steps were made.
      have hsteps (i k : Nat) : Steps (body.Matches text) (min least text.size + 1 + k) i j ↔
          Steps (body.Matches text) (least + 1 + k) i j := by
        rcases Nat.le_total least text.size with hle | hle
        · rw [Nat.min_eq_left hle]
        · rw [Nat.min_eq_right hle]
          exact steps_iff_of_lt hR (by omega) (by omega)
      constructor
      · rintro ⟨k, hk, l, hl, hrest⟩
        obtain ⟨i, hi, hfront⟩ := (hbody.iterate places l).mp hl
        exact ⟨i, hi, k, hk, (hsteps i k).mp (steps_add.mpr ⟨l, hfront, hrest⟩)⟩
      · rintro ⟨i, hi, k, hk, hall⟩
        obtain ⟨l, hfront, hrest⟩ := steps_add.mp ((hsteps i k).mpr hall)
        exact ⟨k, hk, l, (hbody.iterate places l).mpr ⟨i, hi, hfront⟩, hrest⟩
    · intro i hi
      by_cases hsettle : i ∈ (body.ends text)^[min least text.size] places
      · exact .inr (hsettled i hsettle)
      · exact .inl (mem_unseen.mpr ⟨hi, hsettle⟩)

/-- The places where matches from some places can end are computed. -/
theorem computes_ends (r : Regex) : Computes (r.ends text) (r.Matches text) := by
  have hafter (holds : Char → Bool) (places : List Nat) (j : Nat) :
      j ∈ afterChar text holds places ↔
        ∃ i ∈ places, j = i + 1 ∧ ∃ c, text[i]? = some c ∧ holds c := by
    simp only [afterChar, List.mem_map, List.mem_filter, Option.any_eq_true]
    constructor
    · rintro ⟨i, ⟨hi, c, hc, hholds⟩, rfl⟩
      exact ⟨i, hi, rfl, c, hc, hholds⟩
    · rintro ⟨i, hi, rfl, c, hc, hholds⟩
      exact ⟨i, ⟨hi, c, hc, hholds⟩, rfl⟩
  induction r with
  | empty => intro places j; simp [ends, Matches]
  | char set => exact hafter set.holds
  | any =>
    intro places j
    rw [ends, hafter]
    simp [Matches]
  | start =>
    intro places j
    simp only [ends, Matches, List.mem_filter, beq_iff_eq]
    exact ⟨fun ⟨hj, h⟩ => ⟨j, hj, h, h⟩, fun ⟨i, hi, hstart, h⟩ => ⟨h ▸ hstart ▸ hi, h⟩⟩
  | finish =>
    intro places j
    simp only [ends, Matches, List.mem_filter, beq_iff_eq]
    exact ⟨fun ⟨hj, h⟩ => ⟨j, hj, h, h⟩, fun ⟨i, hi, hfinish, h⟩ => ⟨h ▸ hfinish ▸ hi, h⟩⟩
  | seq first second ihFirst ihSecond =>
    intro places j
    simp only [ends, Matches, ihSecond _ j, ihFirst places]
    constructor
    · rintro ⟨k, ⟨i, hi, hfirst⟩, hsecond⟩
      exact ⟨i, hi, k, hfirst, hsecond⟩
    · rintro ⟨i, hi, k, hfirst, hsecond⟩
      exact ⟨k, ⟨i, hi, hfirst⟩, hsecond⟩
  | either first second ihFirst ihSecond =>
    intro places j
    have hmem : j ∈ (either first second).ends text places ↔
        j ∈ first.ends text places ∨ j ∈ second.ends text places := by
      simp only [ends, List.mem_append, mem_unseen]
      by_cases hfirst : j ∈ first.ends text places <;> simp [hfirst]
    simp only [hmem, ihFirst places, ihSecond places, Matches]
    constructor
    · rintro (⟨i, hi, hij⟩ | ⟨i, hi, hij⟩)
      · exact ⟨i, hi, .inl hij⟩
      · exact ⟨i, hi, .inr hij⟩
    · rintro ⟨i, hi, hij | hij⟩
      · exact .inl ⟨i, hi, hij⟩
      · exact .inr ⟨i, hi, hij⟩
  | repeated body least most eager ih => exact computes_ends_repeated ih least most eager
  | group kind body ih => exact ih

/-- An expression occurs in a text exactly if it matches from one place of the text to another. -/
theorem occursIn_iff (r : Regex) (s : String) :
    r.occursIn s ↔ ∃ i j, j ≤ s.length ∧ r.Matches s.toList.toArray i j := by
  have hsize : s.toList.toArray.size = s.length := by
    rw [List.size_toArray, String.length_toList]
  have hsome : r.occursIn s ↔
      ∃ j, j ∈ r.ends s.toList.toArray (List.range (s.toList.toArray.size + 1)) := by
    rw [occursIn, Bool.not_eq_true', List.isEmpty_eq_false_iff]
    exact ⟨List.exists_mem_of_ne_nil _, fun ⟨_, hj⟩ => List.ne_nil_of_mem hj⟩
  rw [hsome, hsize]
  constructor
  · rintro ⟨j, hj⟩
    obtain ⟨i, hi, hij⟩ := (computes_ends r _ j).mp hj
    have hbounds := forward_matches r i j hij
    have hi' := List.mem_range.mp hi
    exact ⟨i, j, by omega, hij⟩
  · rintro ⟨i, j, hj, hij⟩
    have hbounds := forward_matches r i j hij
    exact ⟨j, (computes_ends r _ j).mpr ⟨i, List.mem_range.mpr (by omega), hij⟩⟩

end RelationGateway.Regex
