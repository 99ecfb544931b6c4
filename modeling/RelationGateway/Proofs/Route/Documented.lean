import RelationGateway.Proofs.Route.Reading
import RelationGateway.Route.Library

/-!
# What libraries for expressions promise

Of a library for regular expressions is asked what it is documented to do: a test looks for a match
anywhere in a text, the two anchors match nothing but the start and the end of a text, and what
stands one behind the other matches one behind the other. The last holds of rows only. What is put
behind a choice belongs to its last alternative, and what is put behind flags is read as they say.

* `Library.Row`: texts that are one row, of expressions without bars and of groups;
* `Library.Documented`: what is promised by a library;
* `Library.Documented.ofRegex`: the library that searches texts keeps it.
-/

namespace RelationGateway.Route.Library

/-! ## Promises -/

/-- The text sets flags for what follows. -/
def SetsFlags (expression : String) : Prop :=
  ∃ flags : List Char, (∀ c ∈ flags, c.isAlpha ∨ c = '-') ∧
    '(' :: '?' :: (flags ++ [')']) <:+: expression.toList

theorem not_setsFlags_of_not_mem {expression : String} (h : '(' ∉ expression.toList) :
    ¬ SetsFlags expression :=
  fun ⟨_, _, hpart⟩ => h (hpart.mem List.mem_cons_self)

/-- What can stand between the parenthesis of a group and its body. -/
inductive GroupMark : String → Prop where
  /-- Nothing: the group has a number. -/
  | numbered : GroupMark ""
  /-- Flags for the body, if any. The one that hides blanks and comments is not among them. -/
  | flags {flags : String} (hflags : ∀ c ∈ flags.toList, c ∈ ['i', 'm', 's', 'R', 'U', 'u', '-']) :
      GroupMark ("?" ++ flags ++ ":")
  /-- The name of the group. -/
  | named {sign name : String} (hsign : sign = "?<" ∨ sign = "?P<") (hname : '>' ∉ name.toList) :
      GroupMark (sign ++ name ++ ">")

/-- The text is one row: an expression without bars, a group, or rows one behind the other. Flags
are set inside groups only. -/
inductive Row (library : Library) : (expression : String) → Prop where
  /-- The whole text is an expression without bars, and sets no flags for what follows. -/
  | plain {expression : String} (husable : (library.compile? expression).isSome)
      (hbar : '|' ∉ expression.toList) (hflags : ¬ SetsFlags expression) : Row library expression
  /-- The text is a group around an expression of any kind. -/
  | group {mark body : String} (hmark : GroupMark mark)
      (hbody : (library.compile? body).isSome)
      (husable : (library.compile? ("(" ++ mark ++ body ++ ")")).isSome) :
      Row library ("(" ++ mark ++ body ++ ")")
  /-- One row stands behind the other. -/
  | append {front back : String} (hfront : Row library front) (hback : Row library back) :
      Row library (front ++ back)

/-- What is promised by a library for regular expressions. -/
structure Documented (library : Library) where
  /-- The expression matches the text from one place up to another. -/
  Matches : (expression text : String) → Nat → Nat → Prop
  /-- A test looks for a match anywhere in the text. -/
  test_iff : ∀ {expression : String} {test : String → Bool},
    library.compile? expression = some test →
      ∀ text, test text ↔ ∃ i j, Matches expression text i j
  /-- The first anchor is an expression of its own. -/
  usable_start : (library.compile? "^").isSome
  /-- So is the last anchor. -/
  usable_finish : (library.compile? "$").isSome
  /-- The first anchor matches at the start of the text. -/
  start_iff : ∀ {text : String} {i j : Nat}, Matches "^" text i j ↔ i = 0 ∧ j = 0
  /-- The last anchor matches at the end of the text. -/
  finish_iff : ∀ {text : String} {i j : Nat},
    Matches "$" text i j ↔ i = text.length ∧ j = text.length
  /-- Rows match one behind the other. -/
  append_iff : ∀ {front back : String}, Row library front → Row library back →
    ∀ {text : String} {i j : Nat},
      Matches (front ++ back) text i j ↔ ∃ k, Matches front text i k ∧ Matches back text k j

namespace Documented

variable {library : Library} (docs : library.Documented)

include docs

theorem row_start : Row library "^" :=
  .plain docs.usable_start (by decide) (not_setsFlags_of_not_mem (by decide))

theorem row_finish : Row library "$" :=
  .plain docs.usable_finish (by decide) (not_setsFlags_of_not_mem (by decide))

/-- A row between the anchors matches whole texts only, and those that the row matches as a
whole. -/
theorem matches_anchored_iff {expression text : String} {i j : Nat} (hrow : Row library expression) :
    docs.Matches ("^" ++ expression ++ "$") text i j ↔
      i = 0 ∧ j = text.length ∧ docs.Matches expression text 0 text.length := by
  rw [docs.append_iff (.append docs.row_start hrow) docs.row_finish]
  simp only [docs.append_iff docs.row_start hrow, docs.start_iff, docs.finish_iff]
  constructor
  · rintro ⟨k, ⟨_, ⟨rfl, rfl⟩, hmatch⟩, rfl, rfl⟩
    exact ⟨rfl, rfl, hmatch⟩
  · rintro ⟨rfl, rfl, hmatch⟩
    exact ⟨text.length, ⟨0, ⟨rfl, rfl⟩, hmatch⟩, rfl, rfl⟩

end Documented

/-! ## The library that searches texts -/

namespace GroupMark

open Regex

variable {mark : String} {cs : List Char}

/-- Where the reader of groups accepts a mark it leaves the body. -/
theorem exists_readGroupHead?_eq (hmark : GroupMark mark) (hcs : repeats cs = false)
    (haccepted : (readGroupHead? (mark.toList ++ cs)).isSome) :
    ∃ kind, readGroupHead? (mark.toList ++ cs) = some (kind, cs) := by
  cases hmark with
  | numbered =>
    refine ⟨.numbered, ?_⟩
    cases cs with
    | nil => rfl
    | cons c tail =>
      -- A question mark in front of the body would repeat nothing.
      have hc : c ≠ '?' := by
        rintro rfl
        cases hcs
      simp [readGroupHead?, hc]
  | @flags flags hflags =>
    rw [String.toList_append, String.toList_append] at haccepted ⊢
    generalize flags.toList = letters at hflags haccepted ⊢
    cases letters with
    | nil => exact ⟨.plain, rfl⟩
    | cons c tail =>
      -- The reader accepts no flags.
      have hc := hflags c List.mem_cons_self
      have hother : c ≠ 'P' ∧ c ≠ '<' ∧ c ≠ ':' := by
        refine ⟨?_, ?_, ?_⟩ <;> rintro rfl <;> exact absurd hc (by decide)
      simp [readGroupHead?, hother] at haccepted
  | @named sign name hsign hname =>
    have hname' : ∀ c ∈ name.toList, (c != '>') := fun c hc =>
      bne_iff_ne.mpr fun heq => hname (heq ▸ hc)
    have hread : readGroupHead? ((sign ++ name ++ ">").toList ++ cs) =
        readGroupName? (name.toList ++ '>' :: cs) := by
      rcases hsign with rfl | rfl <;> simp [readGroupHead?]
    rw [hread] at haccepted ⊢
    unfold readGroupName? at haccepted ⊢
    rw [List.takeWhile_append_of_pos hname', List.dropWhile_append_of_pos hname'] at haccepted ⊢
    by_cases hgroup : isGroupName name.toList
    · exact ⟨.named name, by simp [hgroup]⟩
    · simp [hgroup] at haccepted

end GroupMark

section OfRegex

variable {expression text : String} {r : Regex} {i j : Nat}

theorem reads_of_read? (h : Regex.read? expression = some r) :
    Regex.Reads expression.toList r := by
  unfold Regex.read? at h
  split at h
  next hread =>
    split at h <;> cases h
    exact ⟨_, hread⟩
  next => cases h

theorem exists_reads_of_isSome (h : (ofRegex.compile? expression).isSome) :
    ∃ r, Regex.Reads expression.toList r := by
  rw [ofRegex, Option.isSome_map] at h
  obtain ⟨r, h⟩ := Option.isSome_iff_exists.mp h
  exact ⟨r, reads_of_read? (Option.filter_eq_some_iff.mp h).1⟩

/-- Rows are read as rows. -/
theorem Row.exists_readsRow (h : Row ofRegex expression) :
    ∃ r, Regex.ReadsRow expression.toList r := by
  induction h with
  | plain husable hbar _ =>
    obtain ⟨r, hread⟩ := exists_reads_of_isSome husable
    exact ⟨r, hread.row hbar⟩
  | @group mark body hmark hbody husable =>
    obtain ⟨r, hread⟩ := exists_reads_of_isSome hbody
    obtain ⟨_, hgroup⟩ := exists_reads_of_isSome husable
    have htext : ("(" ++ mark ++ body ++ ")").toList =
        '(' :: (mark.toList ++ (body.toList ++ [')'])) := by simp
    rw [htext] at hgroup ⊢
    have hclose : Regex.repeats (body.toList ++ [')']) = false := by
      rw [Regex.repeats_append rfl]
      exact hread.repeats_eq_false
    obtain ⟨kind, hhead⟩ := hmark.exists_readGroupHead?_eq hclose hgroup.isSome_readGroupHead?
    exact ⟨_, hread.group hhead⟩
  | append _ _ ihFront ihBack =>
    obtain ⟨front, hfront⟩ := ihFront
    obtain ⟨back, hback⟩ := ihBack
    obtain ⟨row, hrow, -⟩ := hfront.append hback
    rw [String.toList_append]
    exact ⟨row, hrow⟩

/-- The expression that a text is read as matches a part of another text. -/
def MatchesAsRead (expression text : String) (i j : Nat) : Prop :=
  j ≤ text.length ∧ ∃ r, Regex.Reads expression.toList r ∧ r.Matches text.toList.toArray i j

theorem matchesAsRead_iff (h : Regex.Reads expression.toList r) :
    MatchesAsRead expression text i j ↔ j ≤ text.length ∧ r.Matches text.toList.toArray i j := by
  constructor
  · rintro ⟨hj, r', hread, hmatch⟩
    obtain rfl := hread.unique h
    exact ⟨hj, hmatch⟩
  · exact fun ⟨hj, hmatch⟩ => ⟨hj, r, h, hmatch⟩

/-- For an expression that is read it can be computed what is matched. -/
theorem matchesAsRead_iff_ends (h : (Regex.read? expression).isSome) :
    MatchesAsRead expression text i j ↔ (Regex.read? expression).any fun r =>
      j ≤ text.length && (r.ends text.toList.toArray [i]).contains j := by
  obtain ⟨r, hr⟩ := Option.isSome_iff_exists.mp h
  rw [matchesAsRead_iff (reads_of_read? hr), hr, Option.any_some, Bool.and_eq_true,
    decide_eq_true_eq, List.contains_iff_mem, Regex.computes_ends r [i] j]
  simp

theorem test_iff_matchesAsRead {test : String → Bool} (h : ofRegex.compile? expression = some test)
    (text : String) : test text ↔ ∃ i j, MatchesAsRead expression text i j := by
  obtain ⟨r, hr, rfl⟩ := Option.map_eq_some_iff.mp h
  have hread := reads_of_read? (Option.filter_eq_some_iff.mp hr).1
  simp only [Regex.occursIn_iff, matchesAsRead_iff hread]

theorem matchesAsRead_append_iff {front back : String} (hfront : Row ofRegex front)
    (hback : Row ofRegex back) : MatchesAsRead (front ++ back) text i j ↔
      ∃ k, MatchesAsRead front text i k ∧ MatchesAsRead back text k j := by
  obtain ⟨first, hfirst⟩ := hfront.exists_readsRow
  obtain ⟨second, hsecond⟩ := hback.exists_readsRow
  obtain ⟨row, hrow, hequivalent⟩ := hfirst.append hsecond
  rw [← String.toList_append] at hrow
  have hmatches : row.Matches text.toList.toArray i j ↔
      ∃ k, first.Matches text.toList.toArray i k ∧ second.Matches text.toList.toArray k j :=
    hequivalent _ i j
  simp only [matchesAsRead_iff hrow.reads, matchesAsRead_iff hfirst.reads,
    matchesAsRead_iff hsecond.reads, hmatches]
  constructor
  · rintro ⟨hj, k, hfront, hback⟩
    -- The first part ends no later than the second.
    have hk := (Regex.forward_matches second k j hback).1
    exact ⟨k, ⟨Nat.le_trans hk hj, hfront⟩, hj, hback⟩
  · rintro ⟨k, ⟨-, hfront⟩, hj, hback⟩
    exact ⟨hj, k, hfront, hback⟩

/-- The library that searches texts keeps what is promised. -/
def Documented.ofRegex : Library.ofRegex.Documented where
  Matches := MatchesAsRead
  test_iff := test_iff_matchesAsRead
  usable_start := by decide +kernel
  usable_finish := by decide +kernel
  start_iff {text i j} := by
    have hread : Regex.Reads "^".toList .start := ⟨3, rfl⟩
    rw [matchesAsRead_iff hread]
    exact ⟨fun ⟨_, hmatch⟩ => hmatch, fun ⟨hi, hj⟩ => ⟨hj ▸ Nat.zero_le _, hi, hj⟩⟩
  finish_iff {text i j} := by
    have hread : Regex.Reads "$".toList .finish := ⟨3, rfl⟩
    rw [matchesAsRead_iff hread]
    have hsize : text.toList.toArray.size = text.length := by
      rw [List.size_toArray, String.length_toList]
    rw [Regex.Matches, hsize]
    exact ⟨fun ⟨_, hmatch⟩ => hmatch, fun ⟨hi, hj⟩ => ⟨Nat.le_of_eq hj, hi, hj⟩⟩
  append_iff hfront hback := matchesAsRead_append_iff hfront hback

end OfRegex

end RelationGateway.Route.Library
