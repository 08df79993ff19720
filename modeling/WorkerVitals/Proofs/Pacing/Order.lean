import WorkerVitals.Proofs.Pacing.Pieces

namespace WorkerVitals.Pacing

variable {pacing other : Pacing} {last now : Time.Instant}

/-- The other pacing asks for no less: its idle time and its threshold are no lower, and a consumer
that is known to lag is known there to lag no more. -/
structure AtMost (pacing other : Pacing) : Prop where
  idle : pacing.idleMillis ≤ other.idleMillis
  threshold : ∀ given ∈ pacing.reducedBelowMillis, ∃ higher ∈ other.reducedBelowMillis,
    given ≤ higher
  behind : ∀ known ∈ pacing.behindMillis, ∃ closer ∈ other.behindMillis, closer ≤ known

theorem AtMost.rfl : pacing.AtMost pacing where
  idle := Int64.le_refl _
  threshold given present := ⟨given, present, Int64.le_refl _⟩
  behind known present := ⟨known, present, Int64.le_refl _⟩

/-- Each limit has one in the other pacing that is no lower. A threshold in force stays in force,
since the lag has not grown and the threshold has not shrunk. -/
theorem AtMost.limit (less : pacing.AtMost other) {limit : Int} (asked : pacing.Limit limit) :
    ∃ higher, other.Limit higher ∧ limit ≤ higher := by
  cases asked with
  | idle => exact ⟨_, .idle, Int64.le_iff_toInt_le.mp less.idle⟩
  | @reduced behind threshold known given close =>
    obtain ⟨higher, present, above⟩ := less.threshold threshold given
    obtain ⟨closer, lagging, below⟩ := less.behind behind known
    have above := Int64.le_iff_toInt_le.mp above
    have below := Int64.le_iff_toInt_le.mp below
    exact ⟨_, .reduced lagging present (by omega), above⟩

theorem AtMost.spacing (less : pacing.AtMost other) : pacing.spacing ≤ other.spacing := by
  obtain ⟨asked, -⟩ := pacing.isGreatest_spacing
  obtain ⟨higher, limit, above⟩ := less.limit asked
  exact above.trans (other.isGreatest_spacing.2 limit)

/-- Whoever asks for no less, no later after the last call, waits no less. -/
theorem AtMost.wait (less : pacing.AtMost other) {lastOther nowOther : Time.Instant}
    (called : pacing.lastCall = some last) (calledOther : other.lastCall = some lastOther)
    (sooner : |nowOther.sinceEpoch - lastOther.sinceEpoch| ≤ |now.sinceEpoch - last.sinceEpoch|) :
    pacing.wait now ≤ other.wait nowOther := by
  have spacing := less.spacing
  have elapsed : nowOther.millisBetween lastOther ≤ now.millisBetween last := by
    rw [Int.abs_eq_natAbs, Int.abs_eq_natAbs, Int.ofNat_le] at sooner
    exact Nat.div_le_div_right sooner
  rw [Int64.le_iff_toInt_le, toInt_wait_spacing called, toInt_wait_spacing calledOther]
  omega

theorem wait_exchanged (called : pacing.lastCall = some last) (now : Time.Instant) :
    { pacing with lastCall := some now }.wait last = pacing.wait now := by
  have same : last.millisBetween now = now.millisBetween last := by
    unfold Time.Instant.millisBetween
    rw [← Int.natAbs_neg, Int.neg_sub]
  rw [← Int64.toInt_inj, toInt_wait rfl, toInt_wait called, same]
  rfl

/-- After a call the wait does not shrink when the idle time grows, when the threshold grows or is
given where there was none, or when the present moves closer to the last call, on either side of it.
It does not grow when the consumer lags by more, or when its lag is no longer known. And worked out
in 64-bit words, from seconds and nanoseconds apart, it is the same when the two instants change
places. -/
theorem wait_moves (called : pacing.lastCall = some last) (now : Time.Instant) :
    (∀ idle, pacing.idleMillis ≤ idle →
        pacing.wait now ≤ { pacing with idleMillis := idle }.wait now) ∧
      (∀ threshold, (∀ given ∈ pacing.reducedBelowMillis, given ≤ threshold) →
        pacing.wait now ≤ { pacing with reducedBelowMillis := some threshold }.wait now) ∧
      (∀ closer : Time.Instant,
        |closer.sinceEpoch - last.sinceEpoch| ≤ |now.sinceEpoch - last.sinceEpoch| →
          pacing.wait now ≤ pacing.wait closer) ∧
      (∀ known behind, pacing.behindMillis = some known → known ≤ behind →
        { pacing with behindMillis := some behind }.wait now ≤ pacing.wait now) ∧
      { pacing with behindMillis := none }.wait now ≤ pacing.wait now ∧
      pacing.wait? now = some (pacing.wait now) ∧
      { pacing with lastCall := some now }.wait? last = pacing.wait? now := by
  have less : pacing.AtMost pacing := .rfl
  refine ⟨?idle, ?threshold, ?closer, ?behind, ?unknown, wait?_eq_some pacing now, ?exchanged⟩
  case idle =>
    intro idle grown
    have more : pacing.AtMost { pacing with idleMillis := idle } := { less with idle := grown }
    exact more.wait called called le_rfl
  case threshold =>
    intro threshold grown
    have more : pacing.AtMost { pacing with reducedBelowMillis := some threshold } :=
      { less with
        threshold := fun given present => ⟨threshold, rfl, grown given present⟩ }
    exact more.wait called called le_rfl
  case closer => exact fun closer near => less.wait called called near
  case behind =>
    intro known behind lagging grown
    have more : AtMost { pacing with behindMillis := some behind } pacing :=
      { less with
        behind := by
          rintro _ ⟨⟩
          exact ⟨known, lagging, grown⟩ }
    exact more.wait called called le_rfl
  case unknown =>
    have more : AtMost { pacing with behindMillis := none } pacing :=
      { less with behind := by rintro _ ⟨⟩ }
    exact more.wait called called le_rfl
  case exchanged => rw [wait?_eq_some, wait?_eq_some, wait_exchanged called]

/-- A lag that reaches the threshold ends the slowdown, half a second before the last call is closer
than a second after it, and seen from that second the last call is as far. -/
theorem wait_moves_relaxed :
    let before : Time.Instant := ⟨-1, 500000000, by decide, by decide, by decide⟩
    relaxed.lastCall = some .epoch ∧
      { relaxed with behindMillis := some 5000 }.wait pausing ≤ relaxed.wait pausing ∧
      { relaxed with behindMillis := some 5000 }.wait pausing = 0 ∧
      relaxed.wait pausing ≤ relaxed.wait before ∧ relaxed.wait before = 4500 ∧
      { relaxed with lastCall := some pausing }.wait? .epoch = some 4000 := by
  intro before
  have called : relaxed.lastCall = some .epoch := rfl
  obtain ⟨-, -, closer, lagging, -, words, exchanged⟩ := wait_moves called pausing
  refine ⟨called, lagging 100 5000 rfl (by decide), by decide, closer before (by decide), by decide,
    ?_⟩
  rw [exchanged, words]
  decide

end WorkerVitals.Pacing
