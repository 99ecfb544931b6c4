import Mathlib.Data.List.TakeWhile
import RelationGateway.Route.SetReader

/-!
# Reading classes in front of more text

A class of characters is read up to its closing bracket, and what stands behind the bracket makes
no difference. Each part of a class is settled before the bracket: a named set by the name between
its colons, an operation by its two signs, and a range by the character behind its dash.

* `CharSet.read?_suffix`: a class ends in its closing bracket;
* `CharSet.read?_append`: a class is read in the same way whatever follows it.
-/

namespace RelationGateway

/-- What stands behind the head of an end of a list is an end of the list. -/
theorem suffix_of_cons_suffix {c : Char} {rest cs : List Char} (h : c :: rest <:+ cs) :
    rest <:+ cs :=
  (List.suffix_cons c rest).trans h

section While

variable {p : Char → Bool} {cs : List Char}

/-- Where a run of characters stops, it stops also if there is more behind. -/
theorem dropWhile_append_of_ne_nil (h : cs.dropWhile p ≠ []) (more : List Char) :
    (cs ++ more).dropWhile p = cs.dropWhile p ++ more := by
  rw [List.dropWhile_append, if_neg (by simpa using h)]

theorem takeWhile_append_of_ne_nil (h : cs.dropWhile p ≠ []) (more : List Char) :
    (cs ++ more).takeWhile p = cs.takeWhile p := by
  have hlength := congrArg List.length (List.takeWhile_append_dropWhile (p := p) (l := cs))
  have hpos := List.length_pos_iff.mpr h
  rw [List.length_append] at hlength
  rw [List.takeWhile_append, if_neg (by omega)]

end While

namespace CharSet

variable {cs rest more : List Char} {set : CharSet}

theorem readSign_suffix (cs : List Char) : (readSign cs).2 <:+ cs := by
  unfold readSign
  split
  · exact List.suffix_cons _ _
  · exact List.suffix_rfl

theorem readSign_append (hne : cs ≠ []) (more : List Char) :
    readSign (cs ++ more) = ((readSign cs).1, (readSign cs).2 ++ more) := by
  obtain ⟨c, cs, rfl⟩ := List.exists_cons_of_ne_nil hne
  by_cases hc : c = '^'
  · rw [hc]
    rfl
  · simp [readSign, hc]

theorem readNamed?_suffix (h : readNamed? cs = some (set, rest)) : ']' :: rest <:+ cs := by
  unfold readNamed? at h
  split at h
  next cs =>
    have hname : (readSign cs).2 <:+ ':' :: cs := (readSign_suffix cs).trans (List.suffix_cons _ _)
    dsimp only at h
    split at h
    next more hmore =>
      obtain ⟨_, -, heq⟩ := Option.map_eq_some_iff.mp h
      cases heq
      have hclose : ':' :: ']' :: rest <:+ (readSign cs).2 := hmore ▸ List.dropWhile_suffix _
      exact (suffix_of_cons_suffix hclose).trans hname
    next => cases h
  next => cases h

/-- No name of a set holds a bracket. -/
theorem ofName?_eq_none {name : List Char} (h : ']' ∈ name) :
    NamedSet.ofName? (String.ofList name) = none := by
  have hname {s : String} (hs : ']' ∉ s.toList) : String.ofList name ≠ s := by
    rintro rfl
    exact hs (by rwa [String.toList_ofList])
  unfold NamedSet.ofName?
  split
  all_goals first
    | rfl
    | next heq => exact absurd heq (hname (by decide))

/-- Whether a named set follows is settled before the first closing bracket. -/
theorem readNamed?_append (hclose : ']' ∈ cs) (more : List Char) :
    readNamed? (cs ++ more) = (readNamed? cs).map fun (set, rest) => (set, rest ++ more) := by
  obtain ⟨c, cs, rfl⟩ := List.exists_cons_of_ne_nil (List.ne_nil_of_mem hclose)
  by_cases hc : c = ':'
  · subst hc
    have hclose' : ']' ∈ cs := (List.mem_cons.mp hclose).resolve_left (by decide)
    have hsign : ']' ∈ (readSign cs).2 := by
      unfold readSign
      split
      · exact (List.mem_cons.mp hclose').resolve_left (by decide)
      · exact hclose'
    rw [List.cons_append, readNamed?, readNamed?, readSign_append (List.ne_nil_of_mem hclose')]
    generalize readSign cs = sign at hsign
    obtain ⟨negated, name⟩ := sign
    dsimp only at hsign ⊢
    by_cases hcolon : name.dropWhile (· != ':') = []
    · -- Without a colon the name would hold the bracket.
      have hall : ∀ a ∈ name, (a != ':') := List.dropWhile_eq_nil_iff.mp hcolon
      rw [hcolon, List.takeWhile_append_of_pos hall]
      have hnone := ofName?_eq_none (List.mem_append_left (more.takeWhile (· != ':')) hsign)
      split
      · rw [hnone]
        rfl
      · rfl
    · rw [dropWhile_append_of_ne_nil hcolon, takeWhile_append_of_ne_nil hcolon]
      obtain ⟨a, tail, hrest⟩ := List.exists_cons_of_ne_nil hcolon
      obtain rfl : a = ':' := by
        have hhead := List.head?_dropWhile_not (· != ':') name
        simpa [hrest] using hhead
      rw [hrest]
      cases tail with
      | nil =>
        -- Only the colon stands behind the name, so the name holds the bracket.
        have hname : ']' ∈ name.takeWhile (· != ':') := by
          rw [← List.takeWhile_append_dropWhile (p := (· != ':')) (l := name), hrest,
            List.mem_append] at hsign
          exact hsign.resolve_right (by decide)
        rw [ofName?_eq_none hname]
        split <;> rfl
      | cons b tail =>
        by_cases hb : b = ']'
        · subst hb
          cases NamedSet.ofName? (String.ofList (name.takeWhile (· != ':'))) <;> rfl
        · simp [hb]
  · simp [readNamed?, hc]

theorem readAtom?_suffix {item : Atom} (h : readAtom? cs = some (item, rest)) : rest <:+ cs := by
  unfold readAtom? at h
  split at h
  next c more =>
    obtain ⟨_, -, heq⟩ := Option.map_eq_some_iff.mp h
    cases heq
    exact suffix_of_cons_suffix (List.suffix_cons _ _)
  next => cases h
  next => cases h; exact List.suffix_cons _ _
  next => cases h

theorem readAtom?_append {item : Atom} (h : readAtom? cs = some (item, rest))
    (more : List Char) : readAtom? (cs ++ more) = some (item, rest ++ more) := by
  unfold readAtom? at h
  split at h
  next c tail =>
    obtain ⟨_, hitem, heq⟩ := Option.map_eq_some_iff.mp h
    cases heq
    simp [readAtom?, hitem]
  next => cases h
  next c _ hescape hlast =>
    cases h
    -- A backslash would have been the sign of an escape.
    have hc : c ≠ '\\' := by
      rintro rfl
      cases rest with
      | nil => exact hlast rfl rfl
      | cons d tail => exact hescape d tail rfl rfl
    simp [readAtom?, hc]
  next => cases h

theorem readRange?_suffix (h : readRange? cs = some (set, rest)) : rest <:+ cs := by
  unfold readRange? at h
  obtain ⟨⟨⟨first, low⟩, more⟩, hfirst, h⟩ := Option.bind_eq_some_iff.mp h
  have hmore : more <:+ cs := readAtom?_suffix hfirst
  dsimp only at h
  split at h
  · cases h
    exact hmore
  · cases h
    exact hmore
  next more' _ _ =>
    obtain ⟨⟨⟨_, high⟩, last⟩, hlast, h⟩ := Option.bind_eq_some_iff.mp h
    have hrest : last <:+ cs := (readAtom?_suffix hlast).trans (suffix_of_cons_suffix hmore)
    dsimp only at h
    split at h
    · split at h
      · cases h
        exact hrest
      · cases h
    · cases h
  · cases h
    exact hmore

theorem readRange?_append (h : readRange? cs = some (set, rest)) (hne : rest ≠ [])
    (more : List Char) : readRange? (cs ++ more) = some (set, rest ++ more) := by
  unfold readRange? at h
  obtain ⟨⟨⟨first, low⟩, behind⟩, hfirst, h⟩ := Option.bind_eq_some_iff.mp h
  rw [readRange?, readAtom?_append hfirst]
  dsimp only [Option.bind_eq_bind, Option.bind_some] at h ⊢
  split at h
  next =>
    cases h
    rfl
  next =>
    cases h
    rfl
  next tail hclose hdash =>
    obtain ⟨⟨⟨_, high⟩, last⟩, hlast, h⟩ := Option.bind_eq_some_iff.mp h
    have hlast' := readAtom?_append hlast more
    obtain ⟨d, tail, rfl⟩ : ∃ d behind, tail = d :: behind := by
      cases tail with
      | nil => cases hlast
      | cons d behind => exact ⟨d, behind, rfl⟩
    have hd : d ≠ ']' := fun heq => hclose tail (heq ▸ rfl)
    have hd' : d ≠ '-' := fun heq => hdash tail (heq ▸ rfl)
    rw [hlast, Option.bind_some] at h
    rw [List.cons_append] at hlast'
    dsimp only at h
    split at h
    next lowest highest =>
      split at h
      next hle =>
        cases h
        simp [hd, hd', hlast', hle]
      next => cases h
    next => cases h
  next hdash =>
    cases h
    obtain ⟨d, tail, rfl⟩ := List.exists_cons_of_ne_nil hne
    have hd : d ≠ '-' := fun heq => hdash tail (heq ▸ rfl)
    simp [hd]

theorem readOperation?_suffix {operation : SetOperation}
    (h : readOperation? cs = some (operation, rest)) : rest <:+ cs := by
  unfold readOperation? at h
  split at h <;> cases h
  all_goals exact suffix_of_cons_suffix (List.suffix_cons _ _)

/-- Whether an operation follows is settled before the closing bracket of the class. -/
theorem readOperation?_append (hclose : ']' ∈ cs) (more : List Char) :
    readOperation? (cs ++ more) =
      (readOperation? cs).map fun (operation, rest) => (operation, rest ++ more) := by
  obtain ⟨c, cs, rfl⟩ := List.exists_cons_of_ne_nil (List.ne_nil_of_mem hclose)
  cases cs with
  | nil =>
    obtain rfl : ']' = c := List.mem_singleton.mp hclose
    rfl
  | cons d cs =>
    -- Both signs of an operation stand within the class.
    simp only [readOperation?, List.cons_append]
    split <;> simp_all

theorem readOpening_suffix (cs : List Char) : (readOpening cs).2 <:+ cs := by
  have hsign := readSign_suffix cs
  unfold readOpening
  generalize readSign cs = sign at hsign
  obtain ⟨negated, cs'⟩ := sign
  dsimp only at hsign ⊢
  split
  next => exact suffix_of_cons_suffix hsign
  next => exact (List.dropWhile_suffix _).trans hsign

theorem readOpening_append (hne : (readOpening cs).2 ≠ []) (more : List Char) :
    readOpening (cs ++ more) = ((readOpening cs).1, (readOpening cs).2 ++ more) := by
  have hcs : cs ≠ [] := by
    rintro rfl
    exact hne rfl
  unfold readOpening at hne ⊢
  rw [readSign_append hcs]
  generalize readSign cs = sign at hne
  obtain ⟨negated, cs'⟩ := sign
  dsimp only at hne ⊢
  split at hne
  next => rfl
  next hclose =>
    have hdash : cs'.dropWhile (· == '-') ≠ [] := hne
    obtain ⟨c, tail, rfl⟩ : ∃ c tail, cs' = c :: tail := by
      cases cs' with
      | nil => exact absurd rfl hdash
      | cons c tail => exact ⟨c, tail, rfl⟩
    have hc : c ≠ ']' := fun heq => hclose tail (heq ▸ rfl)
    rw [dropWhile_append_of_ne_nil hdash, takeWhile_append_of_ne_nil hdash]
    simp [hc]

/-- Classes and their parts end in the closing bracket. -/
theorem readClass?_readParts?_suffix (fuel : Nat) :
    (∀ {cs rest : List Char} {set : CharSet},
      readClass? fuel cs = some (set, rest) → ']' :: rest <:+ cs) ∧
    (∀ {before : Option (SetOperation × CharSet)} {read : CharSet} {cs rest : List Char}
      {set : CharSet}, readParts? fuel before read cs = some (set, rest) → ']' :: rest <:+ cs) := by
  induction fuel with
  | zero => exact ⟨fun h => by simp [readClass?] at h, fun h => by simp [readParts?] at h⟩
  | succ fuel ih =>
    obtain ⟨ihClass, ihParts⟩ := ih
    constructor
    · intro cs rest set h
      unfold readClass? at h
      obtain ⟨_, hparts, heq⟩ := Option.map_eq_some_iff.mp h
      cases heq
      exact (ihParts hparts).trans (readOpening_suffix cs)
    · intro before read cs rest set h
      unfold readParts? at h
      split at h
      next hoperation => exact (ihParts h).trans (readOperation?_suffix hoperation)
      next =>
        split at h
        next =>
          cases h
          exact List.suffix_rfl
        next more =>
          dsimp only at h
          split at h
          next found hnamed =>
            have hlast := suffix_of_cons_suffix (readNamed?_suffix hnamed)
            exact (ihParts h).trans (hlast.trans (List.suffix_cons _ _))
          next =>
            obtain ⟨⟨_, last⟩, hset, h⟩ := Option.bind_eq_some_iff.mp h
            have hlast := suffix_of_cons_suffix (ihClass hset)
            exact (ihParts h).trans (hlast.trans (List.suffix_cons _ _))
        next =>
          obtain ⟨⟨_, last⟩, hset, h⟩ := Option.bind_eq_some_iff.mp h
          exact (ihParts h).trans (readRange?_suffix hset)

section Parts

variable {fuel : Nat} {before : Option (SetOperation × CharSet)} {read : CharSet}
  {behind : List Char}

theorem readParts?_of_operation {operation : SetOperation}
    (h : readOperation? cs = some (operation, behind)) :
    readParts? (fuel + 1) before read cs =
      readParts? fuel (some (operation, resolve before read)) empty behind := by
  simp [readParts?, h]

theorem readParts?_of_named (hoperation : readOperation? ('[' :: cs) = none)
    (h : readNamed? cs = some (set, behind)) :
    readParts? (fuel + 1) before read ('[' :: cs) =
      readParts? fuel before (beside read set) behind := by
  simp [readParts?, hoperation, h]

theorem readParts?_of_class (hoperation : readOperation? ('[' :: cs) = none)
    (hnamed : readNamed? cs = none) (h : readClass? fuel cs = some (set, behind)) :
    readParts? (fuel + 1) before read ('[' :: cs) =
      readParts? fuel before (beside read set) behind := by
  simp [readParts?, hoperation, hnamed, h]

end Parts

/-- A class that is closed is read so also if there is more behind it. -/
theorem readClass?_readParts?_append (more : List Char) (fuel : Nat) :
    (∀ {fuel' : Nat} {cs rest : List Char} {set : CharSet}, fuel ≤ fuel' →
      readClass? fuel cs = some (set, rest) →
      readClass? fuel' (cs ++ more) = some (set, rest ++ more)) ∧
    (∀ {fuel' : Nat} {before : Option (SetOperation × CharSet)} {read : CharSet}
      {cs rest : List Char} {set : CharSet}, fuel ≤ fuel' →
      readParts? fuel before read cs = some (set, rest) →
      readParts? fuel' before read (cs ++ more) = some (set, rest ++ more)) := by
  induction fuel with
  | zero => exact ⟨fun _ h => by simp [readClass?] at h, fun _ h => by simp [readParts?] at h⟩
  | succ fuel ih =>
    obtain ⟨ihClass, ihParts⟩ := ih
    constructor
    · intro fuel' cs rest set hfuel h
      obtain _ | fuel' := fuel'
      · exact absurd hfuel (Nat.not_succ_le_zero fuel)
      have hopening (hne : (readOpening cs).2 ≠ []) := readOpening_append hne more
      unfold readClass? at h ⊢
      generalize readOpening cs = opening at h hopening
      obtain ⟨⟨negated, first⟩, tail⟩ := opening
      obtain ⟨_, hparts, heq⟩ := Option.map_eq_some_iff.mp h
      cases heq
      have hclose := (readClass?_readParts?_suffix fuel).2 hparts
      rw [hopening (List.ne_nil_of_mem (hclose.mem List.mem_cons_self))]
      dsimp only
      rw [ihParts (Nat.le_of_succ_le_succ hfuel) hparts]
      rfl
    · intro fuel' before read cs rest set hfuel h
      obtain _ | fuel' := fuel'
      · exact absurd hfuel (Nat.not_succ_le_zero fuel)
      have hfuel' := Nat.le_of_succ_le_succ hfuel
      have hclose : ']' ∈ cs :=
        ((readClass?_readParts?_suffix (fuel + 1)).2 h).mem List.mem_cons_self
      unfold readParts? at h
      split at h
      next operation behind hoperation =>
        have hoperation' : readOperation? (cs ++ more) = some (operation, behind ++ more) := by
          rw [readOperation?_append hclose, hoperation]
          rfl
        rw [readParts?_of_operation hoperation']
        exact ihParts hfuel' h
      next hoperation =>
        have hoperation' : readOperation? (cs ++ more) = none := by
          rw [readOperation?_append hclose, hoperation]
          rfl
        split at h
        next =>
          cases h
          rw [List.cons_append] at hoperation' ⊢
          simp [readParts?, hoperation']
        next tail =>
          have htail : ']' ∈ tail := (List.mem_cons.mp hclose).resolve_left (by decide)
          have hnamed' := readNamed?_append htail more
          rw [List.cons_append] at hoperation' ⊢
          dsimp only at h
          split at h
          next found hnamed =>
            rw [hnamed] at hnamed'
            rw [readParts?_of_named hoperation' hnamed']
            exact ihParts hfuel' h
          next hnamed =>
            rw [hnamed] at hnamed'
            obtain ⟨⟨set', behind⟩, hset, h⟩ := Option.bind_eq_some_iff.mp h
            rw [readParts?_of_class hoperation' hnamed' (ihClass hfuel' hset)]
            exact ihParts hfuel' h
        next hend hbracket =>
          obtain ⟨⟨set', behind⟩, hset, hparts⟩ := Option.bind_eq_some_iff.mp h
          have hbehind := (readClass?_readParts?_suffix fuel).2 hparts
          have hset' := readRange?_append hset
            (List.ne_nil_of_mem (hbehind.mem List.mem_cons_self)) more
          obtain ⟨c, tail, rfl⟩ := List.exists_cons_of_ne_nil (List.ne_nil_of_mem hclose)
          have hc : c ≠ ']' := fun heq => hend tail (heq ▸ rfl)
          have hc' : c ≠ '[' := fun heq => hbracket tail (heq ▸ rfl)
          rw [List.cons_append] at hset' hoperation' ⊢
          simp [readParts?, hoperation', hc, hc', hset', ihParts hfuel' hparts]

/-- A class ends in its closing bracket. -/
theorem read?_suffix (h : read? cs = some (set, rest)) : ']' :: rest <:+ cs :=
  (readClass?_readParts?_suffix _).1 h

theorem read?_append (h : read? cs = some (set, rest)) (more : List Char) :
    read? (cs ++ more) = some (set, rest ++ more) :=
  (readClass?_readParts?_append more _).1 (by rw [List.length_append]; omega) h

end CharSet

end RelationGateway
