import RelationGateway.Proofs.Route.Matching
import RelationGateway.Proofs.Route.SetReading
import RelationGateway.Route.RegexReader

/-!
# Reading expressions one behind the other

An expression without a bar outside its groups is a row of atoms. A row is read atom by atom, and
each atom is settled before the next one begins, so two rows one behind the other are read as one
row, and its matches are those of the first row with those of the second behind them. The fuel of
the readers makes no difference as soon as there is enough of it.

* `leavesEnd`: what is left by reading is an end of the text;
* `goesOn`: what has been read is read again with more fuel and more text behind;
* `Reads.unique`: a text is read as one expression only;
* `ReadsRow.append`: two rows one behind the other.
-/

namespace RelationGateway

namespace Regex

variable {cs rest more : List Char} {r r' : Regex}

/-! ## Repetitions -/

theorem readBound?_append {n : Nat} (h : readBound? cs = some (n, rest)) (hne : rest ≠ [])
    (more : List Char) : readBound? (cs ++ more) = some (n, rest ++ more) := by
  unfold readBound? at h ⊢
  obtain ⟨_, hvalue, heq⟩ := Option.map_eq_some_iff.mp h
  cases heq
  -- Each run of blanks or digits stops before what is left.
  have hdigits : ((cs.dropWhile Text.isBlank).dropWhile Char.isDigit) ≠ [] := by
    intro hnil
    rw [hnil] at hne
    exact hne rfl
  have hblanks : cs.dropWhile Text.isBlank ≠ [] := by
    intro hnil
    rw [hnil] at hdigits
    exact hdigits rfl
  dsimp only
  rw [dropWhile_append_of_ne_nil hblanks, takeWhile_append_of_ne_nil hdigits, hvalue,
    dropWhile_append_of_ne_nil hdigits, dropWhile_append_of_ne_nil hne]
  rfl

theorem readBound?_suffix {n : Nat} (h : readBound? cs = some (n, rest)) : rest <:+ cs := by
  unfold readBound? at h
  obtain ⟨_, -, heq⟩ := Option.map_eq_some_iff.mp h
  cases heq
  exact (List.dropWhile_suffix _).trans
    ((List.dropWhile_suffix _).trans (List.dropWhile_suffix _))

theorem readBounds?_suffix {bounds : Nat × Option Nat} (h : readBounds? cs = some (bounds, rest)) :
    '\x7d' :: rest <:+ cs := by
  unfold readBounds? at h
  obtain ⟨⟨least, more⟩, hleast, h⟩ := Option.bind_eq_some_iff.mp h
  have hmore : more <:+ cs := readBound?_suffix hleast
  dsimp only at h
  split at h
  next =>
    cases h
    exact hmore
  next =>
    cases h
    exact suffix_of_cons_suffix hmore
  next =>
    obtain ⟨⟨most, last⟩, hmost, h⟩ := Option.bind_eq_some_iff.mp h
    have hlast := (readBound?_suffix hmost).trans (suffix_of_cons_suffix hmore)
    dsimp only at h
    split at h
    next =>
      split at h <;> cases h
      exact hlast
    next => cases h
  next => cases h

theorem readBounds?_append {bounds : Nat × Option Nat} (h : readBounds? cs = some (bounds, rest))
    (more : List Char) : readBounds? (cs ++ more) = some (bounds, rest ++ more) := by
  unfold readBounds? at h
  obtain ⟨⟨least, behind⟩, hleast, h⟩ := Option.bind_eq_some_iff.mp h
  dsimp only at h
  have hne : behind ≠ [] := by
    rintro rfl
    cases h
  rw [readBounds?, readBound?_append hleast hne]
  dsimp only [Option.bind_eq_bind, Option.bind_some]
  split at h
  next =>
    cases h
    rfl
  next =>
    cases h
    rfl
  next tail hclose =>
    obtain ⟨⟨most, last⟩, hmost, h⟩ := Option.bind_eq_some_iff.mp h
    dsimp only at h
    split at h
    next tail' =>
      split at h
      next hle =>
        cases h
        have hmost' := readBound?_append hmost (List.cons_ne_nil _ _) more
        -- A second number stands behind the comma, and no closing brace.
        have htail : tail ≠ [] :=
          List.ne_nil_of_mem ((readBound?_suffix hmost).mem List.mem_cons_self)
        obtain ⟨d, tail, rfl⟩ := List.exists_cons_of_ne_nil htail
        have hd : d ≠ '\x7d' := fun heq => hclose tail (heq ▸ rfl)
        rw [List.cons_append] at hmost'
        simp [hd, hmost', hle]
      next => cases h
    next => cases h
  next => cases h

theorem readTimes?_suffix {bounds : Nat × Option Nat} (h : readTimes? cs = some (bounds, rest)) :
    ∃ c, c :: rest <:+ cs := by
  unfold readTimes? at h
  split at h
  next => cases h; exact ⟨'*', List.suffix_rfl⟩
  next => cases h; exact ⟨'+', List.suffix_rfl⟩
  next => cases h; exact ⟨'?', List.suffix_rfl⟩
  next => exact ⟨'\x7d', (readBounds?_suffix h).trans (List.suffix_cons _ _)⟩
  next => cases h

theorem readTimes?_append {bounds : Nat × Option Nat} (h : readTimes? cs = some (bounds, rest))
    (more : List Char) : readTimes? (cs ++ more) = some (bounds, rest ++ more) := by
  unfold readTimes? at h
  split at h
  next => cases h; rfl
  next => cases h; rfl
  next => cases h; rfl
  next => exact readBounds?_append h more
  next => cases h

theorem readEager_suffix (cs : List Char) : (readEager cs).2 <:+ cs := by
  unfold readEager
  split
  · exact List.suffix_cons _ _
  · exact List.suffix_rfl

/-- A text with a character in front goes on with a repetition or not whatever is behind it. -/
theorem repeats_append (hmore : repeats more = false) (cs : List Char) :
    repeats (cs ++ more) = repeats cs := by
  cases cs with
  | nil => exact hmore
  | cons c cs => rfl

theorem readEager_append (hmore : repeats more = false) (cs : List Char) :
    readEager (cs ++ more) = ((readEager cs).1, (readEager cs).2 ++ more) := by
  cases cs with
  | nil =>
    -- A question mark behind would be a repetition.
    have hnot : ∀ tail, more ≠ '?' :: tail := by
      rintro tail rfl
      cases hmore
    rw [List.nil_append, readEager]
    · rfl
    · exact hnot
  | cons c cs =>
    by_cases hc : c = '?'
    · rw [hc]
      rfl
    · simp [readEager, hc]

/-- Repetitions leave an end of the text. -/
theorem readRepeats?_suffix {fuel : Nat} (h : readRepeats? fuel r cs = some (r', rest)) :
    rest <:+ cs := by
  induction fuel generalizing r cs with
  | zero =>
    cases h
    exact List.suffix_rfl
  | succ fuel ih =>
    unfold readRepeats? at h
    split at h
    next =>
      obtain ⟨⟨bounds, behind⟩, htimes, h⟩ := Option.bind_eq_some_iff.mp h
      obtain ⟨c, hbehind⟩ := readTimes?_suffix htimes
      exact (ih h).trans ((readEager_suffix behind).trans (suffix_of_cons_suffix hbehind))
    next =>
      cases h
      exact List.suffix_rfl

/-- With fuel for each character, the same repetitions are read where no other follows. -/
theorem readRepeats?_append (hmore : repeats more = false) {fuel fuel' : Nat}
    (hfuel : cs.length < fuel) (hfuel' : cs.length < fuel')
    (h : readRepeats? fuel r cs = some (r', rest)) :
    readRepeats? fuel' r (cs ++ more) = some (r', rest ++ more) := by
  induction fuel generalizing fuel' r cs with
  | zero => exact absurd hfuel (Nat.not_lt_zero _)
  | succ fuel ih =>
    obtain _ | fuel' := fuel'
    · exact absurd hfuel' (Nat.not_lt_zero _)
    unfold readRepeats? at h ⊢
    rw [repeats_append hmore]
    split at h
    next hrepeats =>
      rw [if_pos hrepeats]
      obtain ⟨⟨bounds, behind⟩, htimes, h⟩ := Option.bind_eq_some_iff.mp h
      obtain ⟨c, hbehind⟩ := readTimes?_suffix htimes
      -- What is left is shorter, so for that there is enough fuel too.
      have hshorter : (readEager behind).2.length < cs.length := by
        have hlength := hbehind.length_le
        have heager := (readEager_suffix behind).length_le
        rw [List.length_cons] at hlength
        omega
      rw [readTimes?_append htimes]
      dsimp only [Option.bind_eq_bind, Option.bind_some]
      rw [readEager_append hmore]
      exact ih (by omega) (by omega) h
    next hrepeats =>
      cases h
      rw [if_neg hrepeats]

/-! ## Heads of groups -/

theorem readGroupName?_suffix {kind : GroupKind} (h : readGroupName? cs = some (kind, rest)) :
    rest <:+ cs := by
  unfold readGroupName? at h
  dsimp only at h
  split at h
  next more hmore =>
    split at h <;> cases h
    have hclose : '>' :: rest <:+ cs := hmore ▸ List.dropWhile_suffix _
    exact suffix_of_cons_suffix hclose
  next => cases h

theorem readGroupName?_append {kind : GroupKind} (h : readGroupName? cs = some (kind, rest))
    (more : List Char) : readGroupName? (cs ++ more) = some (kind, rest ++ more) := by
  unfold readGroupName? at h ⊢
  dsimp only at h ⊢
  split at h
  next tail htail =>
    have hne : cs.dropWhile (· != '>') ≠ [] := by
      rw [htail]
      exact List.cons_ne_nil _ _
    rw [dropWhile_append_of_ne_nil hne, takeWhile_append_of_ne_nil hne, htail]
    split at h <;> cases h
    next hname => exact if_pos hname
  next => cases h

theorem readGroupHead?_suffix {kind : GroupKind} (h : readGroupHead? cs = some (kind, rest)) :
    rest <:+ cs := by
  have hbehind (a b : Char) (more : List Char) : more <:+ a :: b :: more :=
    suffix_of_cons_suffix (List.suffix_cons a (b :: more))
  unfold readGroupHead? at h
  split at h
  next => exact ((readGroupName?_suffix h).trans (hbehind _ _ _)).trans (List.suffix_cons _ _)
  next => exact (readGroupName?_suffix h).trans (hbehind _ _ _)
  next =>
    cases h
    exact hbehind _ _ _
  next => cases h
  next =>
    cases h
    exact List.suffix_rfl

theorem readGroupHead?_append {kind : GroupKind} (h : readGroupHead? cs = some (kind, rest))
    (hne : cs ≠ []) (more : List Char) :
    readGroupHead? (cs ++ more) = some (kind, rest ++ more) := by
  unfold readGroupHead? at h
  split at h
  next => exact readGroupName?_append h more
  next => exact readGroupName?_append h more
  next =>
    cases h
    rfl
  next => cases h
  next hquestion =>
    cases h
    obtain ⟨c, cs, rfl⟩ := List.exists_cons_of_ne_nil hne
    have hc : c ≠ '?' := fun heq => hquestion cs (heq ▸ rfl)
    simp [readGroupHead?, hc]

/-! ## Alternatives, rows and atoms -/

/-- A row of atoms does not go on. -/
def endsRow : List Char → Bool
  | [] => true
  | c :: _ => c == '|' || c == ')'

theorem endsRow_append (h : endsRow cs = false) (more : List Char) :
    endsRow (cs ++ more) = false := by
  cases cs with
  | nil => cases h
  | cons c tail => exact h

theorem readSeq?_of_endsRow {fuel : Nat} (read : Option Regex) (h : endsRow cs) :
    readSeq? (fuel + 1) read cs = some (read.getD .empty, cs) := by
  cases cs with
  | nil => rfl
  | cons c tail =>
    have hc : c = '|' ∨ c = ')' := by simpa [endsRow] using h
    rcases hc with rfl | rfl <;> rfl

theorem readSeq?_of_atom {fuel : Nat} {read : Option Regex} {next next' : Regex}
    {behind last : List Char} (h : endsRow cs = false)
    (hatom : readAtom? fuel cs = some (next, behind))
    (hrepeats : readRepeats? (behind.length + 1) next behind = some (next', last)) :
    readSeq? (fuel + 1) read cs = readSeq? fuel (followedBy read next') last := by
  cases cs with
  | nil => cases h
  | cons c tail =>
    have hc : c ≠ '|' ∧ c ≠ ')' := by simpa [endsRow] using h
    rw [readSeq?]
    · simp [hatom, hrepeats]
    · exact List.cons_ne_nil c tail
    · exact fun _ heq => hc.1 (List.cons.inj heq).1
    · exact fun _ heq => hc.2 (List.cons.inj heq).1

/-- A row ends, or it goes on with an atom and its repetitions. -/
theorem readSeq?_cases {fuel : Nat} {read : Option Regex}
    (h : readSeq? (fuel + 1) read cs = some (r, rest)) :
    (endsRow cs ∧ r = read.getD .empty ∧ rest = cs) ∨
      endsRow cs = false ∧ ∃ next behind next' last, readAtom? fuel cs = some (next, behind) ∧
        readRepeats? (behind.length + 1) next behind = some (next', last) ∧
        readSeq? fuel (followedBy read next') last = some (r, rest) := by
  cases hends : endsRow cs with
  | true =>
    rw [readSeq?_of_endsRow read hends] at h
    cases h
    exact .inl ⟨rfl, rfl, rfl⟩
  | false =>
    unfold readSeq? at h
    split at h
    next => cases hends
    next => cases hends
    next => cases hends
    next =>
      obtain ⟨⟨next, behind⟩, hatom, h⟩ := Option.bind_eq_some_iff.mp h
      obtain ⟨⟨next', last⟩, hrepeats, h⟩ := Option.bind_eq_some_iff.mp h
      exact .inr ⟨rfl, next, behind, next', last, hatom, hrepeats, h⟩

/-- A single row, or two alternatives. -/
theorem readEither?_cases {fuel : Nat} (h : readEither? (fuel + 1) cs = some (r, rest)) :
    (readSeq? fuel none cs = some (r, rest) ∧ rest.head? ≠ some '|') ∨
      ∃ first second behind, readSeq? fuel none cs = some (first, '|' :: behind) ∧
        readEither? fuel behind = some (second, rest) ∧ r = .either first second := by
  unfold readEither? at h
  obtain ⟨⟨first, behind⟩, hfirst, h⟩ := Option.bind_eq_some_iff.mp h
  dsimp only at h
  split at h
  next =>
    obtain ⟨⟨second, last⟩, hsecond, h⟩ := Option.bind_eq_some_iff.mp h
    cases h
    exact .inr ⟨first, second, _, hfirst, hsecond, rfl⟩
  next hbar =>
    cases h
    refine .inl ⟨hfirst, fun hhead => ?_⟩
    obtain ⟨tail, heq⟩ := List.head?_eq_some_iff.mp hhead
    exact hbar tail heq

theorem readEither?_of_row {fuel : Nat} (h : readSeq? fuel none cs = some (r, rest))
    (hbar : rest.head? ≠ some '|') : readEither? (fuel + 1) cs = some (r, rest) := by
  rw [readEither?, h]
  cases rest with
  | nil => rfl
  | cons c tail =>
    have hc : c ≠ '|' := fun heq => hbar (heq ▸ rfl)
    simp [hc]

theorem readEither?_of_bar {fuel : Nat} {first second : Regex} {behind : List Char}
    (hfirst : readSeq? fuel none cs = some (first, '|' :: behind))
    (hsecond : readEither? fuel behind = some (second, rest)) :
    readEither? (fuel + 1) cs = some (.either first second, rest) := by
  simp [readEither?, hfirst, hsecond]

/-- With this fuel an end of the text is left, and an atom takes something of it. -/
structure LeavesEnd (fuel : Nat) : Prop where
  either : ∀ {cs rest r}, readEither? fuel cs = some (r, rest) → rest <:+ cs
  row : ∀ {read cs rest r}, readSeq? fuel read cs = some (r, rest) → rest <:+ cs
  atom : ∀ {cs rest r}, readAtom? fuel cs = some (r, rest) → ∃ c, c :: rest <:+ cs

theorem LeavesEnd.atom_succ {fuel : Nat} (hfuel : LeavesEnd fuel)
    (h : readAtom? (fuel + 1) cs = some (r, rest)) : ∃ c, c :: rest <:+ cs := by
  unfold readAtom? at h
  split at h
  next => cases h
  split at h
  next => cases h
  next => cases h; exact ⟨_, List.suffix_rfl⟩
  next => cases h; exact ⟨_, List.suffix_rfl⟩
  next => cases h; exact ⟨_, List.suffix_rfl⟩
  next =>
    obtain ⟨_, hset, heq⟩ := Option.map_eq_some_iff.mp h
    cases heq
    exact ⟨_, (CharSet.read?_suffix hset).trans (List.suffix_cons _ _)⟩
  next => cases h; exact ⟨_, List.suffix_cons _ _⟩
  next => cases h; exact ⟨_, List.suffix_cons _ _⟩
  next =>
    obtain ⟨_, -, heq⟩ := Option.map_eq_some_iff.mp h
    cases heq
    exact ⟨_, List.suffix_cons _ _⟩
  next => cases h
  next =>
    obtain ⟨⟨kind, inside⟩, hhead, h⟩ := Option.bind_eq_some_iff.mp h
    obtain ⟨⟨body, behind⟩, hbody, h⟩ := Option.bind_eq_some_iff.mp h
    dsimp only at h
    split at h <;> cases h
    exact ⟨_, (hfuel.either hbody).trans
      ((readGroupHead?_suffix hhead).trans (List.suffix_cons _ _))⟩
  next => cases h; exact ⟨_, List.suffix_rfl⟩

theorem leavesEnd (fuel : Nat) : LeavesEnd fuel := by
  induction fuel with
  | zero =>
    exact ⟨fun h => by simp [readEither?] at h, fun h => by simp [readSeq?] at h,
      fun h => by simp [readAtom?] at h⟩
  | succ fuel ih =>
    refine ⟨fun h => ?either, fun h => ?row, ih.atom_succ⟩
    case either =>
      rcases readEither?_cases h with ⟨hrow, -⟩ | ⟨_, _, _, hfirst, hsecond, -⟩
      · exact ih.row hrow
      · exact (ih.either hsecond).trans (suffix_of_cons_suffix (ih.row hfirst))
    case row =>
      rcases readSeq?_cases h with ⟨-, -, rfl⟩ | ⟨-, _, _, _, _, hatom, hrepeats, h⟩
      · exact List.suffix_rfl
      · obtain ⟨c, hbehind⟩ := ih.atom hatom
        have hlast := (readRepeats?_suffix hrepeats).trans (suffix_of_cons_suffix hbehind)
        exact (ih.row h).trans hlast

/-- Nothing more follows, or the closing parenthesis of a group. -/
def Closes (more : List Char) : Prop := more = [] ∨ more.head? = some ')'

theorem Closes.endsRow (h : Closes more) : endsRow more := by
  rcases h with rfl | h
  · rfl
  · obtain ⟨tail, rfl⟩ := List.head?_eq_some_iff.mp h
    rfl

theorem Closes.head?_ne (h : Closes more) : more.head? ≠ some '|' := by
  rcases h with rfl | h
  · nofun
  · rw [h]
    decide

/-- What is read with this fuel is read also with more of it, in front of more text that is no
repetition. Where all of the text is read it must be closed. -/
structure GoesOn (more : List Char) (fuel : Nat) : Prop where
  either : ∀ {fuel' cs rest r}, fuel ≤ fuel' → Closes more ∨ rest ≠ [] →
    readEither? fuel cs = some (r, rest) → readEither? fuel' (cs ++ more) = some (r, rest ++ more)
  row : ∀ {fuel' read cs rest r}, fuel ≤ fuel' → Closes more ∨ rest ≠ [] →
    readSeq? fuel read cs = some (r, rest) →
    readSeq? fuel' read (cs ++ more) = some (r, rest ++ more)
  atom : ∀ {fuel' cs rest r}, fuel ≤ fuel' →
    readAtom? fuel cs = some (r, rest) → readAtom? fuel' (cs ++ more) = some (r, rest ++ more)

theorem GoesOn.atom_succ {fuel fuel' : Nat} (hgo : GoesOn more fuel)
    (hmore : repeats more = false) (hfuel : fuel ≤ fuel')
    (h : readAtom? (fuel + 1) cs = some (r, rest)) :
    readAtom? (fuel' + 1) (cs ++ more) = some (r, rest ++ more) := by
  have hrepeats := repeats_append hmore cs
  unfold readAtom? at h ⊢
  split at h
  next => cases h
  next hnot =>
  rw [hrepeats, if_neg hnot]
  split at h
  next => cases h
  next => cases h; rfl
  next => cases h; rfl
  next => cases h; rfl
  next =>
    obtain ⟨⟨set, behind⟩, hset, heq⟩ := Option.map_eq_some_iff.mp h
    cases heq
    simp [CharSet.read?_append hset]
  next => cases h; rfl
  next => cases h; rfl
  next =>
    obtain ⟨_, hescape, heq⟩ := Option.map_eq_some_iff.mp h
    cases heq
    simp [hescape]
  next => cases h
  next tail =>
    obtain ⟨⟨kind, inside⟩, hhead, h⟩ := Option.bind_eq_some_iff.mp h
    obtain ⟨⟨body, behind⟩, hbody, h⟩ := Option.bind_eq_some_iff.mp h
    dsimp only at h
    split at h <;> cases h
    -- The closing parenthesis stands behind the head of the group.
    have hclose := (leavesEnd fuel).either hbody
    have htail : tail ≠ [] := List.ne_nil_of_mem
      ((readGroupHead?_suffix hhead).mem (hclose.mem List.mem_cons_self))
    have hbody' := hgo.either hfuel (.inr (List.cons_ne_nil _ _)) hbody
    simp [readGroupHead?_append hhead htail, hbody']
  next c tail _ _ _ _ _ _ hescape hlast _ =>
    cases h
    -- A backslash would have been the sign of an escape.
    have hc : c ≠ '\\' := by
      rintro rfl
      cases rest with
      | nil => exact hlast rfl rfl
      | cons d tail => exact hescape d tail rfl rfl
    simp [hc]

theorem goesOn (hmore : repeats more = false) (fuel : Nat) : GoesOn more fuel := by
  induction fuel with
  | zero =>
    exact ⟨fun _ _ h => by simp [readEither?] at h, fun _ _ h => by simp [readSeq?] at h,
      fun _ h => by simp [readAtom?] at h⟩
  | succ fuel ih =>
    refine ⟨fun {fuel'} _ rest _ hfuel hclosed h => ?either,
      fun {fuel'} read _ rest _ hfuel hclosed h => ?row, fun {fuel'} _ _ _ hfuel h => ?atom⟩
    all_goals
      obtain _ | fuel' := fuel'
      · exact absurd hfuel (Nat.not_succ_le_zero fuel)
      have hfuel' := Nat.le_of_succ_le_succ hfuel
    case either =>
      rcases readEither?_cases h with ⟨hrow, hbar⟩ | ⟨_, _, _, hfirst, hsecond, rfl⟩
      · refine readEither?_of_row (ih.row hfuel' hclosed hrow) ?_
        cases rest with
        | nil => exact (hclosed.resolve_right fun h => h rfl).head?_ne
        | cons c tail => exact hbar
      · exact readEither?_of_bar (ih.row hfuel' (.inr (List.cons_ne_nil _ _)) hfirst)
          (ih.either hfuel' hclosed hsecond)
    case row =>
      rcases readSeq?_cases h with ⟨hends, rfl, rfl⟩ | ⟨hends, _, behind, _, _, hatom, hrepeats, h⟩
      · -- Where nothing is left of the text, what follows closes the row.
        have hends' : endsRow (rest ++ more) := by
          cases rest with
          | nil => exact (hclosed.resolve_right fun h => h rfl).endsRow
          | cons c tail => exact hends
        exact readSeq?_of_endsRow read hends'
      · have hrepeats' := readRepeats?_append hmore (Nat.lt_succ_self _)
          (Nat.lt_succ_of_le (List.prefix_append behind more).length_le) hrepeats
        rw [readSeq?_of_atom (endsRow_append hends more) (ih.atom hfuel' hatom) hrepeats']
        exact ih.row hfuel' hclosed h
    case atom => exact ih.atom_succ hmore hfuel' h

/-! ## Rows one behind the other -/

/-- The whole text is read as the expression. -/
def Reads (cs : List Char) (r : Regex) : Prop := ∃ fuel, readEither? fuel cs = some (r, [])

/-- The whole text is read as one row of atoms. -/
def ReadsRow (cs : List Char) (r : Regex) : Prop := ∃ fuel, readSeq? fuel none cs = some (r, [])

/-- Both expressions match the same parts of every text. -/
def Equivalent (r r' : Regex) : Prop :=
  ∀ text i j, Matches text r i j ↔ Matches text r' i j

theorem Reads.unique (h : Reads cs r) (h' : Reads cs r') : r = r' := by
  obtain ⟨fuel, h⟩ := h
  obtain ⟨fuel', h'⟩ := h'
  -- With the fuel of both, each is read again.
  have hsame {n : Nat} {r : Regex} (hn : n ≤ max fuel fuel')
      (h : readEither? n cs = some (r, [])) :
      readEither? (max fuel fuel') cs = some (r, []) := by
    have hgo : GoesOn [] n := goesOn rfl n
    have hmore := hgo.either hn (.inl (.inl rfl)) h
    simpa using hmore
  have heq := (hsame (Nat.le_max_left _ _) h).symm.trans (hsame (Nat.le_max_right _ _) h')
  exact (Prod.mk.inj (Option.some.inj heq)).1

theorem ReadsRow.reads (h : ReadsRow cs r) : Reads cs r := by
  obtain ⟨fuel, h⟩ := h
  exact ⟨fuel + 1, readEither?_of_row h nofun⟩

/-- A text without bars is read as one row. -/
theorem Reads.row (h : Reads cs r) (hbar : '|' ∉ cs) : ReadsRow cs r := by
  obtain ⟨_ | fuel, h⟩ := h
  · simp [readEither?] at h
  · rcases readEither?_cases h with ⟨hrow, -⟩ | ⟨_, _, _, hfirst, -, -⟩
    · exact ⟨fuel, hrow⟩
    · have hsuffix := (leavesEnd fuel).row hfirst
      exact absurd (hsuffix.mem List.mem_cons_self) hbar

/-- A row does not begin with a repetition. -/
theorem repeats_of_readSeq? {fuel : Nat} {read : Option Regex}
    (h : readSeq? fuel read cs = some (r, rest)) : repeats cs = false := by
  cases fuel with
  | zero => simp [readSeq?] at h
  | succ fuel =>
    rcases readSeq?_cases h with ⟨hends, -, -⟩ | ⟨-, _, _, _, _, hatom, -, -⟩
    · cases cs with
      | nil => rfl
      | cons c tail =>
        have hc : c = '|' ∨ c = ')' := by simpa [endsRow] using hends
        rcases hc with rfl | rfl <;> rfl
    · cases fuel with
      | zero => simp [readAtom?] at hatom
      | succ fuel =>
        by_contra hrepeats
        unfold readAtom? at hatom
        rw [if_pos (by simpa using hrepeats)] at hatom
        cases hatom

theorem Reads.repeats_eq_false (h : Reads cs r) : repeats cs = false := by
  obtain ⟨_ | fuel, h⟩ := h
  · simp [readEither?] at h
  · rcases readEither?_cases h with ⟨hrow, -⟩ | ⟨_, _, _, hfirst, -, -⟩
    · exact repeats_of_readSeq? hrow
    · exact repeats_of_readSeq? hfirst

/-- A group around an expression is a row. -/
theorem Reads.group {mark : List Char} {kind : GroupKind}
    (hhead : readGroupHead? (mark ++ (cs ++ [')'])) = some (kind, cs ++ [')'])) (h : Reads cs r) :
    ReadsRow ('(' :: (mark ++ (cs ++ [')']))) (.group kind r) := by
  obtain ⟨fuel, h⟩ := h
  have hgo : GoesOn [')'] fuel := goesOn rfl fuel
  have hbody : readEither? fuel (cs ++ [')']) = some (r, [')']) :=
    hgo.either (Nat.le_refl fuel) (.inl (.inr rfl)) h
  have hatom : readAtom? (fuel + 1) ('(' :: (mark ++ (cs ++ [')']))) = some (.group kind r, []) := by
    unfold readAtom?
    simp [repeats, hhead, hbody]
  refine ⟨fuel + 2, ?_⟩
  rw [readSeq?_of_atom rfl hatom rfl]
  rfl

/-- What follows an opening parenthesis is the head of a group. -/
theorem Reads.isSome_readGroupHead? (h : Reads ('(' :: cs) r) : (readGroupHead? cs).isSome := by
  have hatom {fuel : Nat} {next : Regex} {rest : List Char}
      (h : readAtom? fuel ('(' :: cs) = some (next, rest)) : (readGroupHead? cs).isSome := by
    cases fuel with
    | zero => simp [readAtom?] at h
    | succ fuel =>
      unfold readAtom? at h
      simp only [repeats] at h
      obtain ⟨_, hhead, -⟩ := Option.bind_eq_some_iff.mp h
      exact Option.isSome_of_mem hhead
  have hrow {fuel : Nat} {first : Regex} {rest : List Char}
      (h : readSeq? fuel none ('(' :: cs) = some (first, rest)) : (readGroupHead? cs).isSome := by
    cases fuel with
    | zero => simp [readSeq?] at h
    | succ fuel =>
      rcases readSeq?_cases h with ⟨hends, -⟩ | ⟨-, _, _, _, _, hnext, -⟩
      · cases hends
      · exact hatom hnext
  obtain ⟨_ | fuel, h⟩ := h
  · simp [readEither?] at h
  · rcases readEither?_cases h with ⟨hfirst, -⟩ | ⟨_, _, _, hfirst, -, -⟩
    · exact hrow hfirst
    · exact hrow hfirst

/-- Behind a whole row reading goes on as if the row had just been read. -/
theorem exists_readSeq?_append (hmore : repeats more = false) {fuel : Nat} {read : Option Regex}
    (h : readSeq? fuel read cs = some (r, [])) :
    ∃ read' k, r = read'.getD .empty ∧ ∀ fuel' ≥ fuel,
      readSeq? (fuel' + k) read (cs ++ more) = readSeq? fuel' read' more := by
  induction fuel generalizing read cs with
  | zero => simp [readSeq?] at h
  | succ fuel ih =>
    rcases readSeq?_cases h with ⟨-, rfl, rfl⟩ | ⟨hends, _, behind, next, _, hatom, hrepeats, h⟩
    · exact ⟨read, 0, rfl, fun _ _ => rfl⟩
    · -- The atom is read in front of more text just as it was.
      obtain ⟨read', k, hr, hgo⟩ := ih h
      refine ⟨read', k + 1, hr, fun fuel' hfuel => ?_⟩
      have hfuel' : fuel ≤ fuel' + k := by omega
      have hatom' := (goesOn hmore fuel).atom hfuel' hatom
      have hrepeats' := readRepeats?_append hmore (Nat.lt_succ_self _)
        (Nat.lt_succ_of_le (List.prefix_append behind more).length_le) hrepeats
      rw [← Nat.add_assoc, readSeq?_of_atom (endsRow_append hends more) hatom' hrepeats']
      exact hgo fuel' (Nat.le_of_succ_le hfuel)

theorem equivalent_followedBy {front row : Regex} {read : Option Regex}
    (hrow : row.Equivalent (.seq front (read.getD .empty))) (next : Regex) :
    (Regex.seq row next).Equivalent (.seq front (followedBy read next)) := by
  intro text i j
  have hnext (k : Nat) : Matches text (followedBy read next) k j ↔
      ∃ l, Matches text (read.getD .empty) k l ∧ Matches text next l j := by
    cases read <;> simp [followedBy, Matches]
  have hrow' (l : Nat) : Matches text row i l ↔
      ∃ k, Matches text front i k ∧ Matches text (read.getD .empty) k l := hrow text i l
  simp only [Matches, hnext, hrow']
  constructor
  · rintro ⟨l, ⟨k, hfront, hread⟩, hlast⟩
    exact ⟨k, hfront, l, hread, hlast⟩
  · rintro ⟨k, hfront, l, hread, hlast⟩
    exact ⟨l, ⟨k, hfront, hread⟩, hlast⟩

/-- What is read behind a row matches behind it. -/
theorem exists_readSeq?_behind {front row : Regex} {fuel : Nat} {read : Option Regex}
    (hrow : row.Equivalent (.seq front (read.getD .empty)))
    (h : readSeq? fuel read cs = some (r, rest)) :
    ∃ r', readSeq? fuel (some row) cs = some (r', rest) ∧ r'.Equivalent (.seq front r) := by
  induction fuel generalizing read row cs with
  | zero => simp [readSeq?] at h
  | succ fuel ih =>
    rcases readSeq?_cases h with ⟨hends, rfl, rfl⟩ | ⟨hends, _, _, next, _, hatom, hrepeats, h⟩
    · exact ⟨row, readSeq?_of_endsRow (some row) hends, hrow⟩
    · rw [readSeq?_of_atom hends hatom hrepeats]
      have hnext : (Regex.seq row next).Equivalent
          (.seq front ((some (followedBy read next)).getD .empty)) :=
        equivalent_followedBy hrow next
      exact ih hnext h

/-- Two rows one behind the other are one row, and its matches are those of the first row with
those of the second behind them. -/
theorem ReadsRow.append {front back : List Char} (hfront : ReadsRow front r)
    (hback : ReadsRow back r') :
    ∃ row, ReadsRow (front ++ back) row ∧ row.Equivalent (.seq r r') := by
  obtain ⟨n, hfront⟩ := hfront
  obtain ⟨m, hback⟩ := hback
  obtain ⟨read, k, rfl, hgo⟩ := exists_readSeq?_append (repeats_of_readSeq? hback) hfront
  -- There has to be fuel for both of them.
  have hback' : readSeq? (max n m) none back = some (r', []) := by
    have hagain : GoesOn [] m := goesOn rfl m
    have hread := hagain.row (Nat.le_max_right n m) (.inl (.inl rfl)) hback
    rwa [List.append_nil] at hread
  cases read with
  | none =>
    refine ⟨r', ⟨max n m + k, (hgo _ (Nat.le_max_left n m)).trans hback'⟩, fun text i j => ?_⟩
    simp [Matches]
  | some row =>
    have hrow : row.Equivalent (.seq row ((none : Option Regex).getD .empty)) :=
      fun text i j => by simp [Matches]
    obtain ⟨both, hread, hequivalent⟩ := exists_readSeq?_behind hrow hback'
    exact ⟨both, ⟨max n m + k, (hgo _ (Nat.le_max_left n m)).trans hread⟩, hequivalent⟩

end Regex

end RelationGateway
