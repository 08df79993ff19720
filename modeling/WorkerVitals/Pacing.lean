import WorkerVitals.Time.Elapsed

/-! How long to wait before the next round of polling: rounds are at least the idle time apart,
and further apart while the consumer is closer to the end of its stream than a threshold. -/
namespace WorkerVitals

/-- What is known when the wait is asked for. -/
structure Pacing where
  lastCall : Option Time.Instant
  idleMillis : Int64
  behindMillis : Option Int64
  reducedBelowMillis : Option Int64
  deriving DecidableEq

/-- The difference of two 64-bit numbers, held at the ends of their range. -/
def clampedSub (a b : Int64) : Int64 := .ofIntClamp (a.toInt - b.toInt)

namespace Pacing

/-- The wait that the lag asks for; it is zero unless the consumer is known to lag by less than
the threshold, and may be negative. -/
def reducedWait (pacing : Pacing) (elapsed : Int64) : Int64 :=
  match pacing.behindMillis, pacing.reducedBelowMillis with
  | some behind, some threshold => if behind < threshold then clampedSub threshold elapsed else 0
  | _, _ => 0

/-- Milliseconds to wait at an instant, unless the elapsed time overflows. Before the first call it is
the idle time as given. -/
def wait? (pacing : Pacing) (now : Time.Instant) : Option Int64 :=
  match pacing.lastCall with
  | none => some pacing.idleMillis
  | some last => (now.elapsed? last).map fun elapsed =>
    max (max (clampedSub pacing.idleMillis elapsed) 0) (pacing.reducedWait elapsed)

theorem isSome_wait? (pacing : Pacing) (now : Time.Instant) : (pacing.wait? now).isSome := by
  unfold wait?
  split
  · rfl
  · rename_i last _
    obtain ⟨elapsed, counted, -⟩ := now.elapsed?_eq_some last
    rw [counted]
    rfl

/-- Milliseconds to wait at an instant. -/
def wait (pacing : Pacing) (now : Time.Instant) : Int64 :=
  (pacing.wait? now).get (pacing.isSome_wait? now)

/-- No step of it overflows. -/
theorem wait?_eq_some (pacing : Pacing) (now : Time.Instant) :
    pacing.wait? now = some (pacing.wait now) := (Option.some_get _).symm

end Pacing

end WorkerVitals
