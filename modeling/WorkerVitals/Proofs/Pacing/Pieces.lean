import WorkerVitals.Proofs.Pacing.Exact

/-! How far apart the waits keep calls, and what becomes of a wait while time goes by. A wait is the
least number of milliseconds after which the greatest limit has passed since the last call, so time
that has been waited is no longer asked for. -/
namespace WorkerVitals.Pacing

variable {pacing : Pacing} {last now later : Time.Instant}

/-- The wait is the least one that keeps the greatest limit. -/
theorem isLeast_wait (called : pacing.lastCall = some last)
    (ordered : last.sinceEpoch ≤ now.sinceEpoch) :
    IsLeast {millis | 0 ≤ millis ∧ last.after pacing.spacing ≤ now.after millis}
      (pacing.wait now).toInt := by
  have whole := Time.Instant.millisBetween_le ordered
  have short := last.lt_after_millisBetween now
  rw [toInt_wait_spacing called]
  unfold Time.Instant.after Time.nanosPerMilli at *
  refine ⟨⟨le_max_left .., by omega⟩, ?_⟩
  rintro millis ⟨nonneg, enough⟩
  omega

/-- With its wait a call comes no sooner than the greatest limit after the last one, although the
time since then is counted in whole milliseconds, and less than a millisecond later than that unless
the limit has passed by itself. -/
theorem wait_keeps_spacing (called : pacing.lastCall = some last)
    (ordered : last.sinceEpoch ≤ now.sinceEpoch) :
    IsGreatest {limit | pacing.Limit limit} pacing.spacing ∧
      last.after pacing.spacing ≤ now.after (pacing.wait now).toInt ∧
      (0 < (pacing.wait now).toInt →
        now.after (pacing.wait now).toInt < last.after (pacing.spacing + 1)) ∧
      ((pacing.wait now).toInt = 0 → last.after pacing.spacing ≤ now.sinceEpoch) := by
  obtain ⟨⟨nonneg, enough⟩, least⟩ := isLeast_wait called ordered
  refine ⟨pacing.isGreatest_spacing, enough, ?_, ?_⟩
  · intro positive
    by_contra late
    rw [not_lt, ← sub_add_cancel (pacing.wait now).toInt 1,
      Time.Instant.after_add_le_after_add_iff] at late
    -- So a millisecond less would do.
    have shorter := least ⟨Int.sub_nonneg.mpr positive, late⟩
    omega
  · intro none
    rw [none] at enough
    simpa [Time.Instant.after] using enough

/-- Calls at least a second apart, and five while the lag is below five seconds, as it is. -/
def relaxed : Pacing :=
  { lastCall := some .epoch, idleMillis := 1000
    behindMillis := some 100, reducedBelowMillis := some 5000 }

/-- A second later, and a millisecond but for one nanosecond. -/
def pausing : Time.Instant := ⟨1, 999999, by decide, by decide, by decide⟩

theorem wait_keeps_spacing_remainder :
    IsGreatest {limit | relaxed.Limit limit} 5000 ∧ (relaxed.wait pausing).toInt = 4000 ∧
      Time.Instant.epoch.after 5000 ≤ pausing.after 4000 ∧
      pausing.after 4000 < Time.Instant.epoch.after 5001 := by
  have called : relaxed.lastCall = some .epoch := rfl
  have wait : (relaxed.wait pausing).toInt = 4000 := by decide
  have spacing : relaxed.spacing = 5000 := by decide
  obtain ⟨greatest, enough, minimal, -⟩ :=
    wait_keeps_spacing called (by decide : Time.Instant.epoch.sinceEpoch ≤ pausing.sinceEpoch)
  rw [spacing] at greatest
  rw [wait, spacing] at enough minimal
  exact ⟨greatest, wait, enough, minimal (by decide)⟩

theorem toInt_wait_after (called : pacing.lastCall = some last)
    (ordered : last.sinceEpoch ≤ now.sinceEpoch) {millis : Nat}
    (passed : later.sinceEpoch = now.after millis) :
    (pacing.wait later).toInt = max 0 ((pacing.wait now).toInt - millis) := by
  rw [toInt_wait_spacing called, toInt_wait_spacing called,
    Time.Instant.millisBetween_after ordered passed]
  omega

/-- A caller that is woken now and then: it sleeps for no longer than it was told, and asks again
when it wakes. -/
inductive Naps (pacing : Pacing) : Time.Instant → List Nat → Time.Instant → Prop where
  | awake {begun : Time.Instant} : Naps pacing begun [] begun
  | sleep {begun woken ended : Time.Instant} {millis : Nat} {rest : List Nat}
      (told : millis ≤ (pacing.wait begun).toInt) (passed : woken.sinceEpoch = begun.after millis)
      (again : Naps pacing woken rest ended) : Naps pacing begun (millis :: rest) ended

/-- In pieces as well as at once, what was slept and what is still to wait make up the wait. -/
theorem Naps.sum_add_wait {pieces : List Nat} (naps : pacing.Naps now pieces later)
    (called : pacing.lastCall = some last) (ordered : last.sinceEpoch ≤ now.sinceEpoch) :
    pieces.sum + (pacing.wait later).toInt = (pacing.wait now).toInt := by
  induction naps with
  | awake => simp
  | @sleep begun woken ended millis rest told passed again ih =>
    have onward : last.sinceEpoch ≤ woken.sinceEpoch := by
      rw [passed]
      exact ordered.trans (begun.sinceEpoch_le_after millis)
    have total := ih onward
    rw [toInt_wait_after called ordered passed] at total
    rw [List.sum_cons]
    omega

/-- Waiting in pieces is waiting at once: after any milliseconds the wait is shorter by these, a
caller that is woken early and asks again waits no longer and no shorter in total, and after the
whole wait none is left. -/
theorem wait_in_pieces (called : pacing.lastCall = some last)
    (ordered : last.sinceEpoch ≤ now.sinceEpoch) :
    (∀ (millis : Nat) (later : Time.Instant), later.sinceEpoch = now.after millis →
        (pacing.wait later).toInt = max 0 ((pacing.wait now).toInt - millis)) ∧
      (∀ (pieces : List Nat) (later : Time.Instant), pacing.Naps now pieces later →
        pieces.sum + (pacing.wait later).toInt = (pacing.wait now).toInt) ∧
      ∀ later : Time.Instant, later.sinceEpoch = now.after (pacing.wait now).toInt →
        pacing.wait later = 0 := by
  refine ⟨fun millis later passed => toInt_wait_after called ordered passed,
    fun pieces later naps => naps.sum_add_wait called ordered, ?_⟩
  intro later passed
  obtain ⟨millis, whole⟩ := Int.eq_ofNat_of_zero_le (wait_nonneg called now)
  rw [whole] at passed
  have rest := toInt_wait_after called ordered passed
  rw [whole, sub_self, max_self] at rest
  exact Int64.toInt_inj.mp rest

theorem wait_in_pieces_twice :
    let woken : Time.Instant := ⟨2, 500999999, by decide, by decide, by decide⟩
    let done : Time.Instant := ⟨5, 999999, by decide, by decide, by decide⟩
    relaxed.Naps pausing [1500, 2500] done ∧ (relaxed.wait pausing).toInt = 1500 + 2500 ∧
      (relaxed.wait woken).toInt = 2500 ∧ relaxed.wait done = 0 := by
  intro woken done
  have called : relaxed.lastCall = some .epoch := rfl
  obtain ⟨shrinks, slept, whole⟩ :=
    wait_in_pieces called (by decide : Time.Instant.epoch.sinceEpoch ≤ pausing.sinceEpoch)
  have rest : (relaxed.wait woken).toInt = 2500 := shrinks 1500 woken (by decide)
  have free : relaxed.wait done = 0 := whole done (by decide)
  have naps : relaxed.Naps pausing [1500, 2500] done :=
    .sleep (by decide) (by decide : woken.sinceEpoch = pausing.after 1500)
      (.sleep (by decide) (by decide) .awake)
  have total := slept _ _ naps
  rw [free] at total
  exact ⟨naps, total.symm, rest, free⟩

end WorkerVitals.Pacing
