import Mathlib
import WorkerVitals.Time.Elapsed

namespace WorkerVitals.Time.Instant

def earliest : Instant := ⟨-8334601228800, 0, epoch.nanos_lt, le_rfl, by decide⟩

def latest : Instant := ⟨8210266876799, 999999999, by decide, earliest.le_last, le_rfl⟩

theorem millisBetween_le {earlier later : Instant}
    (ordered : earlier.sinceEpoch ≤ later.sinceEpoch) :
    (later.millisBetween earlier : Int) * nanosPerMilli ≤
      later.sinceEpoch - earlier.sinceEpoch := by
  unfold millisBetween nanosPerMilli
  omega

/-- The nanosecond, counted from the epoch, that is so many milliseconds after an instant. It need
not have a date. -/
def after (instant : Instant) (millis : Int) : Int := instant.sinceEpoch + millis * nanosPerMilli

theorem sinceEpoch_le_after (instant : Instant) (millis : Nat) :
    instant.sinceEpoch ≤ instant.after millis := by
  unfold after
  exact Int.le_add_of_nonneg_right (by positivity)

theorem after_add_le_after_add_iff {a b : Instant} {first second more : Int} :
    a.after (first + more) ≤ b.after (second + more) ↔ a.after first ≤ b.after second := by
  unfold after
  rw [add_mul, add_mul, ← add_assoc, ← add_assoc, add_le_add_iff_right]

theorem lt_after_millisBetween (earlier later : Instant) :
    later.sinceEpoch < earlier.after (later.millisBetween earlier + 1) := by
  unfold after millisBetween nanosPerMilli
  omega

theorem millisBetween_after {earlier now later : Instant} {millis : Nat}
    (ordered : earlier.sinceEpoch ≤ now.sinceEpoch) (passed : later.sinceEpoch = now.after millis) :
    later.millisBetween earlier = now.millisBetween earlier + millis := by
  unfold after at passed
  unfold millisBetween
  rw [passed]
  unfold nanosPerMilli
  omega

end WorkerVitals.Time.Instant
