import WorkerVitals.Pacing
import WorkerVitals.Proofs.Time.Elapsed

namespace WorkerVitals

theorem toInt_max (a b : Int64) : (max a b).toInt = max a.toInt b.toInt := by
  have chosen : max a b = if a ≤ b then b else a := rfl
  rw [chosen, Int.max_def]
  simp only [Int64.le_iff_toInt_le]
  split <;> rfl

theorem toInt_clampedSub (a b : Int64) :
    (clampedSub a b).toInt = max (-2 ^ 63) (min (2 ^ 63 - 1) (a.toInt - b.toInt)) := by
  have lowest : Int64.minValue.toInt = -2 ^ 63 := rfl
  have highest : Int64.maxValue.toInt = 2 ^ 63 - 1 := rfl
  unfold clampedSub Int64.ofIntClamp
  split
  · split
    · rw [Int64.toInt_ofIntLE]; omega
    · rw [highest]; omega
  · rw [lowest]; omega

namespace Pacing

/-- The wait that the lag asks for, with no ends of a range. -/
def slowdown (pacing : Pacing) (elapsed : Nat) : Int :=
  match pacing.behindMillis, pacing.reducedBelowMillis with
  | some behind, some threshold => if behind < threshold then threshold.toInt - elapsed else 0
  | _, _ => 0

theorem toInt_reducedWait (pacing : Pacing) {elapsed : Int64} {millis : Nat}
    (counted : elapsed.toInt = millis) :
    max (pacing.reducedWait elapsed).toInt 0 = max (pacing.slowdown millis) 0 := by
  unfold reducedWait slowdown
  cases pacing.behindMillis with
  | none => rfl
  | some behind =>
    cases pacing.reducedBelowMillis with
    | none => rfl
    | some threshold =>
      dsimp only
      split
      · have := threshold.toInt_lt
        rw [toInt_clampedSub, counted]
        omega
      · rfl

/-- After a call the wait fills up the idle time since then, or the slowdown if that is longer. -/
theorem toInt_wait {pacing : Pacing} {last : Time.Instant} (called : pacing.lastCall = some last)
    (now : Time.Instant) :
    (pacing.wait now).toInt = max (max (pacing.idleMillis.toInt - now.millisBetween last)
      (pacing.slowdown (now.millisBetween last))) 0 := by
  obtain ⟨elapsed, counted, whole⟩ := now.elapsed?_eq_some last
  have worked := pacing.wait?_eq_some now
  simp only [wait?, called, counted, Option.map_some, Option.some.injEq] at worked
  have slowed := toInt_reducedWait pacing whole
  have := pacing.idleMillis.toInt_lt
  rw [← worked]
  simp only [toInt_max, toInt_clampedSub, whole, Int64.toInt_zero]
  omega

theorem wait_uncalled {pacing : Pacing} (uncalled : pacing.lastCall = none) (now : Time.Instant) :
    pacing.wait now = pacing.idleMillis := by
  have worked := pacing.wait?_eq_some now
  simp only [wait?, uncalled, Option.some.injEq] at worked
  exact worked.symm

end Pacing

end WorkerVitals
