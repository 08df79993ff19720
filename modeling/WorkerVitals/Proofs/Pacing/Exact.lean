import WorkerVitals.Proofs.Pacing

/-! The wait in exact arithmetic. A pacing sets limits on how close calls may follow each other, and
the wait is what is left of the greatest of them, or zero. So neither end of the 64-bit range ever
shows in it. -/
namespace WorkerVitals.Pacing

/-- The distances between calls, in milliseconds, that are asked for: the idle time, and the
threshold while the consumer is known to lag by less. -/
inductive Limit (pacing : Pacing) : Int → Prop where
  | idle : Limit pacing pacing.idleMillis.toInt
  | reduced {behind threshold : Int64} (known : pacing.behindMillis = some behind)
      (given : pacing.reducedBelowMillis = some threshold)
      (close : behind.toInt < threshold.toInt) : Limit pacing threshold.toInt

/-- The greatest of them. -/
def spacing (pacing : Pacing) : Int :=
  match pacing.behindMillis, pacing.reducedBelowMillis with
  | some behind, some threshold =>
    if behind < threshold then max pacing.idleMillis.toInt threshold.toInt
    else pacing.idleMillis.toInt
  | _, _ => pacing.idleMillis.toInt

/-- No wait, and what is left of each limit after so many milliseconds. -/
def candidates (pacing : Pacing) (elapsed : Int) : Set Int :=
  {wait | wait = 0 ∨ ∃ limit, pacing.Limit limit ∧ wait = limit - elapsed}

variable {pacing : Pacing}

private theorem isGreatest_idle
    (alone : ∀ behind threshold, pacing.behindMillis = some behind →
      pacing.reducedBelowMillis = some threshold → ¬behind < threshold) :
    IsGreatest {limit | pacing.Limit limit} pacing.idleMillis.toInt := by
  refine ⟨.idle, ?_⟩
  rintro limit (_ | ⟨known, given, close⟩)
  · exact le_rfl
  · exact absurd (Int64.lt_iff_toInt_lt.mpr close) (alone _ _ known given)

theorem isGreatest_spacing (pacing : Pacing) :
    IsGreatest {limit | pacing.Limit limit} pacing.spacing := by
  unfold spacing
  cases known : pacing.behindMillis with
  | none => exact isGreatest_idle fun _ _ found => by cases known.symm.trans found
  | some behind =>
    cases given : pacing.reducedBelowMillis with
    | none => exact isGreatest_idle fun _ _ _ found => by cases given.symm.trans found
    | some threshold =>
      dsimp only
      split
      · rename_i close
        have limit : pacing.Limit threshold.toInt :=
          .reduced known given (Int64.lt_iff_toInt_lt.mp close)
        refine ⟨?_, ?_⟩
        · rcases max_choice pacing.idleMillis.toInt threshold.toInt with idle | reduced
          · rw [idle]
            exact .idle
          · rw [reduced]
            exact limit
        · rintro other (_ | ⟨known', given', _⟩)
          · exact le_max_left ..
          · cases given.symm.trans given'
            exact le_max_right ..
      · rename_i far
        refine isGreatest_idle fun _ _ found found' => ?_
        cases known.symm.trans found
        cases given.symm.trans found'
        exact far

theorem isGreatest_candidates (pacing : Pacing) (elapsed : Int) :
    IsGreatest (pacing.candidates elapsed) (max 0 (pacing.spacing - elapsed)) := by
  obtain ⟨limit, above⟩ := pacing.isGreatest_spacing
  refine ⟨?_, ?_⟩
  · rcases max_choice 0 (pacing.spacing - elapsed) with nothing | rest
    · exact .inl nothing
    · exact .inr ⟨_, limit, rest⟩
  · rintro wait (rfl | ⟨other, member, rfl⟩)
    · exact le_max_left ..
    · exact le_max_of_le_right (sub_le_sub_right (above member) elapsed)

private theorem max_slowdown (pacing : Pacing) (elapsed : Nat) :
    max (max (pacing.idleMillis.toInt - elapsed) (pacing.slowdown elapsed)) 0 =
      max 0 (pacing.spacing - elapsed) := by
  unfold spacing slowdown
  cases pacing.behindMillis with
  | none => dsimp only; omega
  | some behind =>
    cases pacing.reducedBelowMillis with
    | none => dsimp only; omega
    | some threshold =>
      dsimp only
      split <;> omega

theorem toInt_wait_spacing {last : Time.Instant} (called : pacing.lastCall = some last)
    (now : Time.Instant) :
    (pacing.wait now).toInt = max 0 (pacing.spacing - now.millisBetween last) := by
  rw [toInt_wait called, max_slowdown]

theorem wait_nonneg {last : Time.Instant} (called : pacing.lastCall = some last)
    (now : Time.Instant) : 0 ≤ (pacing.wait now).toInt := by
  rw [toInt_wait_spacing called]
  exact le_max_left ..

/-- Before the first call the wait is the idle time as given, and only then can it be negative. From
then on it is the greatest of zero, of the idle time and, while the lag is known to be below it, of
the threshold, each less the whole milliseconds since the call, in whole numbers without ends; and
counting these milliseconds overflows nowhere. -/
theorem wait_exact (pacing : Pacing) (now : Time.Instant) :
    (pacing.lastCall = none → pacing.wait now = pacing.idleMillis) ∧
      ((pacing.wait now).toInt < 0 → pacing.lastCall = none) ∧
      ∀ last, pacing.lastCall = some last →
        ∃ elapsed : Int64, now.elapsed? last = some elapsed ∧
          elapsed.toInt = |now.sinceEpoch - last.sinceEpoch| / Time.nanosPerMilli ∧
          IsGreatest (pacing.candidates elapsed.toInt) (pacing.wait now).toInt ∧
          ∀ exact, IsGreatest (pacing.candidates elapsed.toInt) exact →
            0 ≤ exact ∧ exact ≤ Int64.maxValue.toInt := by
  refine ⟨fun uncalled => wait_uncalled uncalled now, ?_, ?_⟩
  · intro negative
    cases called : pacing.lastCall with
    | none => rfl
    | some last => exact absurd (wait_nonneg called now) (Int.not_le.mpr negative)
  · intro last called
    obtain ⟨elapsed, counted, whole⟩ := now.elapsed?_eq_some last
    have greatest : IsGreatest (pacing.candidates elapsed.toInt) (pacing.wait now).toInt := by
      rw [toInt_wait_spacing called, whole]
      exact pacing.isGreatest_candidates _
    refine ⟨elapsed, counted, ?_, greatest, ?_⟩
    · rw [whole, Time.Instant.millisBetween, Int.natCast_div, Int.natCast_natAbs]
    · intro exact unclamped
      rw [unclamped.unique greatest]
      exact ⟨wait_nonneg called now, Int64.toInt_le _⟩

/-- Each setting at an end of its range. -/
def widest : Pacing :=
  { lastCall := some .earliest, idleMillis := Int64.minValue
    behindMillis := some Int64.minValue, reducedBelowMillis := some Int64.maxValue }

/-- From the first instant with a date to the last one. What is left of the idle time is no 64-bit
number then, and the wait does not show it. -/
theorem wait_exact_widest :
    { widest with lastCall := none }.wait .latest = Int64.minValue ∧
      IsGreatest (widest.candidates 16544868105599999) (widest.wait .latest).toInt ∧
      (widest.wait .latest).toInt = 9206827168749175808 := by
  obtain ⟨uncalled, -, -⟩ := wait_exact { widest with lastCall := none } .latest
  obtain ⟨-, -, called⟩ := wait_exact widest .latest
  obtain ⟨elapsed, -, whole, greatest, -⟩ := called .earliest rfl
  have years : elapsed.toInt = 16544868105599999 := whole.trans (by decide)
  rw [years] at greatest
  exact ⟨uncalled rfl, greatest, by decide⟩

end WorkerVitals.Pacing
