import RelationGateway.Gzip.Expander
import RelationGateway.Gzip.Member

/-!
# Expanding members

Expanding a member under a limit is reading the first bytes of one feed, which does not depend on
the limit: the bytes that come out of the member, and the fault that ends them if there is one.

* `Inflation.run_cases`: a run that stops early has begun the one that does not;
* `expand_eq_read`: expanding under a limit is reading the feed;
* `Expander.ofMembers`: so members can be expanded.
-/

namespace RelationGateway.Gzip

/-! ## Expanded bytes stay -/

theorem prefix_copyBack (distance length : Nat) (out : Array UInt8) :
    out.toList <+: (copyBack distance length out).toList := by
  induction length generalizing out with
  | zero => exact List.prefix_rfl
  | succ length ih =>
    refine List.IsPrefix.trans ?_ (ih _)
    rw [Array.toList_push]
    exact List.prefix_append _ _

theorem Piece.prefix_addTo (piece : Piece) (out : Array UInt8) :
    out.toList <+: (piece.addTo out).toList := by
  cases piece with
  | nothing => exact List.prefix_rfl
  | byte value =>
    rw [addTo, Array.toList_push]
    exact List.prefix_append _ _
  | copy distance length => exact prefix_copyBack distance length out

namespace Inflation

variable {enough fuel : Nat} {s : Inflation}

/-- A step keeps the bytes that are expanded. -/
theorem prefix_step (s : Inflation) : s.out.toList <+: s.step.out.toList := by
  unfold step
  split
  next piece _ _ _ => exact piece.prefix_addTo s.out
  next => exact List.prefix_rfl

/-- A run keeps the bytes that are expanded. -/
theorem prefix_runToEnd (fuel : Nat) (s : Inflation) :
    s.out.toList <+: (runToEnd fuel s).out.toList := by
  induction fuel generalizing s with
  | zero => exact List.prefix_rfl
  | succ fuel ih =>
    rw [runToEnd]
    split
    · exact List.prefix_rfl
    · exact (prefix_step s).trans (ih s.step)

/-- A run either goes to the end, or it stops when more than enough bytes are there, which are the
first ones of the run to the end. -/
theorem run_cases (enough fuel : Nat) (s : Inflation) :
    run enough fuel s = runToEnd fuel s ∨
      enough < (run enough fuel s).out.size ∧
        (run enough fuel s).out.toList <+: (runToEnd fuel s).out.toList := by
  induction fuel generalizing s with
  | zero => exact .inl rfl
  | succ fuel ih =>
    have hkept := prefix_runToEnd (fuel + 1) s
    rw [runToEnd] at hkept ⊢
    rw [run]
    -- Both runs stop where the data ends or fails, and only the first one where enough is there.
    by_cases hend : s.isDone || s.fault?.isSome
    · rw [if_pos hend, if_pos (by rw [hend]; rfl)]
      exact .inl rfl
    rw [if_neg hend] at hkept ⊢
    by_cases hstop : enough < s.out.size
    · rw [if_pos (by simp [hstop])]
      exact .inr ⟨hstop, hkept⟩
    · rw [if_neg (by simpa [hstop] using hend)]
      exact ih s.step

/-! ## The feed of a member -/

/-- Not more bytes come out than are expanded. -/
theorem delivered_le (start s : Inflation) : start.delivered s ≤ s.out.size := by
  unfold delivered
  split
  · exact Nat.min_le_left _ _
  · exact Nat.le_refl _

/-- The windows for some bytes hold them. -/
theorem le_windowsFor (n : Nat) : n ≤ windowsFor n := by
  unfold windowsFor windowSize
  omega

/-- Where more bytes are expanded than some windows hold, those in the windows come out, whatever
fault comes later. -/
theorem windowsFor_le_delivered {n : Nat} {start s : Inflation} (h : windowsFor n < s.out.size) :
    windowsFor n ≤ start.delivered s := by
  have hfull : windowsFor n ≤ (s.out.size - 1) / windowSize * windowSize := by
    unfold windowsFor windowSize at *
    omega
  unfold delivered
  split
  · exact Nat.le_min.mpr ⟨Nat.le_of_lt h, Nat.le_trans hfull (Nat.le_max_left _ _)⟩
  · exact Nat.le_of_lt h

/-- What is read of data that is expanded to its end or a fault is read of what comes out of it. -/
theorem readOut_expandAll (limit : Nat) (start : Inflation) :
    start.readOut limit start.expandAll = start.feed.read limit := by
  generalize hs : start.expandAll = s
  rw [readOut]
  cases hfault : s.fault? with
  | some fault =>
    have hfeed : start.feed =
        { bytes := s.out.toList.take (start.delivered s), broken := some fault } := by
      simp only [feed, hs, hfault]
    have hlength : start.feed.bytes.length = start.delivered s := by
      rw [hfeed]
      exact List.length_take_of_le (delivered_le start s)
    -- The limit is met before the fault, or the fault before the limit.
    split
    next h =>
      rw [Feed.read_of_le (hlength ▸ h), hfeed, List.take_take, Nat.min_eq_left h]
    next h =>
      exact (Feed.read_of_breaks (by rw [hfeed]) (hlength ▸ Nat.not_le.mp h)).symm
  | none =>
    have hbytes : start.feed.bytes = s.out.toList := by simp only [feed, hs, hfault]
    have hall : start.delivered s = start.feed.bytes.length := by
      rw [hbytes, delivered, if_neg (by rw [hfault]; exact nofun), Array.length_toList]
    rw [hall]
    split
    next h => rw [Feed.read_of_le h, hbytes]
    next h =>
      -- All bytes come out, so it is the trailer that counts.
      have hlt := Nat.not_le.mp h
      cases htrailer : checkTrailer s.out.toList s.bits.remaining with
      | error fault =>
        exact (Feed.read_of_breaks (by simp only [feed, hs, hfault, htrailer]) hlt).symm
      | ok =>
        rw [Feed.read_of_ends (by simp only [feed, hs, hfault, htrailer]),
          List.take_of_length_le (Nat.le_of_lt hlt), hbytes]
        rfl

/-- Data that is expanded only as far as is needed for some bytes has the same first ones come out
as if it were expanded to its end. -/
theorem readOut_expand (limit : Nat) (start : Inflation) :
    start.readOut limit (start.expand (windowsFor limit)) = start.feed.read limit := by
  rw [← readOut_expandAll, expand, expandAll]
  rcases run_cases (windowsFor limit) start.stepBound start with hsame | ⟨hmore, hbegun⟩
  · rw [hsame]
  · -- Enough windows are full when the run stops, and they come out before any fault.
    have hlimit := le_windowsFor limit
    have hlength := hbegun.length_le
    rw [Array.length_toList, Array.length_toList] at hlength
    have hmore' := Nat.lt_of_lt_of_le hmore hlength
    rw [readOut, if_pos (Nat.le_trans hlimit (windowsFor_le_delivered hmore)), readOut,
      if_pos (Nat.le_trans hlimit (windowsFor_le_delivered hmore')),
      List.prefix_iff_eq_take.mp hbegun, List.take_take, Nat.min_eq_left]
    rw [Array.length_toList]
    exact Nat.le_trans hlimit (Nat.le_of_lt hmore)

end Inflation

/-- Expanding a member under a limit is reading its feed up to that limit: whatever the limit is, it
is the same bytes that come out, and the same fault behind them. -/
theorem expand_eq_read (limit : Nat) (member : List UInt8) :
    expand limit member = (feed member).read limit := by
  -- Where nothing is wanted, not even the header is looked at.
  rcases Nat.eq_zero_or_pos limit with rfl | hpos
  · rw [Feed.read_of_le (Nat.zero_le _)]
    rfl
  rw [expand, if_neg (Nat.ne_of_gt hpos), feed]
  cases readHeader member with
  | error fault => exact (Feed.read_of_breaks rfl hpos).symm
  | ok rest => exact Inflation.readOut_expand limit _

/-- The library that expands members. -/
def Expander.ofMembers : Expander where
  feed member := (Gzip.feed member).mapError Fault.message
  read limit member := (expand limit member).mapError Fault.message
  read_eq limit member := by rw [Feed.read_mapError, expand_eq_read]

end RelationGateway.Gzip
