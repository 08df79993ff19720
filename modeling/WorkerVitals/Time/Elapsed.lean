import WorkerVitals.Time.Instant

/-! The milliseconds between two instants, worked out in 64-bit words. A difference is kept as whole
seconds, rounded down, and the nanoseconds above them; its milliseconds are cut towards zero, and
the sign is dropped last. Between instants that have a date no word overflows on the way. -/
namespace WorkerVitals.Time

/-- A whole number as a 64-bit word, if it is one. -/
def checked (value : Int) : Option Int64 :=
  if Int64.minValue.toInt ≤ value ∧ value ≤ Int64.maxValue.toInt then some (.ofInt value) else none

theorem checked_eq_some (value : Int) (small : value.natAbs < 9223372036854775808) :
    ∃ word, checked value = some word ∧ word.toInt = value := by
  have least : Int64.minValue.toInt = -9223372036854775808 := rfl
  have greatest : Int64.maxValue.toInt = 9223372036854775807 := rfl
  exact ⟨.ofInt value, if_pos (by omega), Int64.toInt_ofInt_of_le (by omega) (by omega)⟩

/-- A length of time with a sign: whole seconds, rounded down, and the nanoseconds above them. -/
structure Span where
  seconds : Int64
  nanos : Nat
  nanos_lt : nanos < nanosPerSecond

namespace Span

/-- All of it in nanoseconds. -/
def length (span : Span) : Int := span.seconds.toInt * nanosPerSecond + span.nanos

/-- The whole milliseconds, cut towards zero: a negative span counts back from the second above. -/
def millis? (span : Span) : Option Int64 := do
  if span.seconds < 0 ∧ 0 < span.nanos then
    let seconds ← checked (span.seconds.toInt + 1)
    let millis ← checked (seconds.toInt * 1000)
    checked (millis.toInt - (nanosPerSecond - span.nanos) / nanosPerMilli)
  else
    let millis ← checked (span.seconds.toInt * 1000)
    checked (millis.toInt + span.nanos / nanosPerMilli)

/-- What is left to the second above takes a negative span to it. -/
private theorem tdiv_below (seconds rest : Int) (negative : seconds ≤ 0) (nonneg : 0 ≤ rest) :
    (seconds * 1000000000 - rest).tdiv 1000000 = seconds * 1000 - rest / 1000000 := by
  have flipped : seconds * 1000000000 - rest = -(-seconds * 1000000000 + rest) := by omega
  rw [flipped, Int.neg_tdiv, Int.tdiv_eq_ediv_of_nonneg (by omega)]
  omega

private theorem tdiv_above (seconds rest : Int) (nonneg : 0 ≤ seconds * 1000000000 + rest) :
    (seconds * 1000000000 + rest).tdiv 1000000 = seconds * 1000 + rest / 1000000 := by
  rw [Int.tdiv_eq_ediv_of_nonneg nonneg]
  omega

/-- A span of fewer than 10 to the power of 15 seconds has its milliseconds in a word. -/
theorem millis?_eq_some {span : Span} (short : span.seconds.toInt.natAbs < 1000000000000000) :
    ∃ millis, span.millis? = some millis ∧ millis.toInt = span.length.tdiv nanosPerMilli := by
  have below := span.nanos_lt
  have zero : (0 : Int64).toInt = 0 := rfl
  unfold millis? length
  simp only [nanosPerSecond, nanosPerMilli, Int64.lt_iff_toInt_lt, zero,
    Int.cast_ofNat_Int] at *
  split
  · obtain ⟨seconds, above, next⟩ :=
      checked_eq_some (span.seconds.toInt + 1) (by omega)
    obtain ⟨whole, scaled, thousand⟩ :=
      checked_eq_some (seconds.toInt * 1000) (by omega)
    obtain ⟨millis, fits, total⟩ := checked_eq_some
      (whole.toInt - (1000000000 - span.nanos) / 1000000) (by omega)
    have back := tdiv_below seconds.toInt (1000000000 - span.nanos) (by omega) (by omega)
    have same : span.seconds.toInt * 1000000000 + span.nanos =
        seconds.toInt * 1000000000 - (1000000000 - span.nanos) := by omega
    exact ⟨millis, by simp only [above, scaled, fits, Option.bind_eq_bind, Option.bind_some],
      by rw [total, same, back]; omega⟩
  · obtain ⟨whole, scaled, thousand⟩ :=
      checked_eq_some (span.seconds.toInt * 1000) (by omega)
    obtain ⟨millis, fits, total⟩ :=
      checked_eq_some (whole.toInt + span.nanos / 1000000) (by omega)
    refine ⟨millis, by simp only [scaled, fits, Option.bind_eq_bind, Option.bind_some], ?_⟩
    by_cases negative : span.seconds.toInt < 0
    · have back := tdiv_below span.seconds.toInt 0 (by omega) (by omega)
      have same : span.seconds.toInt * 1000000000 + span.nanos =
          span.seconds.toInt * 1000000000 - 0 := by omega
      rw [total, same, back]
      omega
    · have forth := tdiv_above span.seconds.toInt span.nanos (by omega)
      rw [total, forth]
      omega

end Span

/-- Cutting towards zero is rounding down apart from the sign. -/
theorem natAbs_tdiv (value : Int) (unit : Nat) :
    (value.tdiv unit).natAbs = value.natAbs / unit := by
  rw [Int.natAbs_tdiv, Int.natAbs_natCast]
  rfl

namespace Instant

theorem millisBetween_lt (a b : Instant) : a.millisBetween b < 9223372036854775808 := by
  have := a.first_le; have := a.le_last; have := a.nanos_lt
  have := b.first_le; have := b.le_last; have := b.nanos_lt
  simp only [nanosPerSecond] at *
  unfold millisBetween sinceEpoch nanosPerMilli nanosPerSecond
  omega

/-- The span from one instant to another; nanoseconds that are missing are borrowed from a
second. -/
def span? (last now : Instant) : Option Span := do
  let seconds ← checked (now.seconds - last.seconds)
  if borrows : now.nanos < last.nanos then
    let seconds ← checked (seconds.toInt - 1)
    return ⟨seconds, now.nanos + nanosPerSecond - last.nanos, by have := last.nanos_lt; omega⟩
  else
    return ⟨seconds, now.nanos - last.nanos, by have := now.nanos_lt; omega⟩

/-- The whole milliseconds between two instants, whichever is earlier; nothing if any step
overflows. -/
def elapsed? (now last : Instant) : Option Int64 := do
  let span ← last.span? now
  let millis ← span.millis?
  checked millis.toInt.natAbs

theorem span?_eq_some (last now : Instant) :
    ∃ span, last.span? now = some span ∧ span.length = now.sinceEpoch - last.sinceEpoch ∧
      span.seconds.toInt.natAbs < 1000000000000000 := by
  have := now.first_le; have := now.le_last; have := last.first_le; have := last.le_last
  have := last.nanos_lt
  obtain ⟨seconds, found, difference⟩ := checked_eq_some (now.seconds - last.seconds)
    (by omega)
  unfold span? Span.length sinceEpoch
  by_cases borrows : now.nanos < last.nanos
  · obtain ⟨lower, below, one⟩ := checked_eq_some (seconds.toInt - 1) (by omega)
    simp only [found, borrows, below, Option.bind_eq_bind, Option.bind_some, dite_true]
    refine ⟨_, rfl, ?_, ?_⟩
    all_goals
      simp only [nanosPerSecond] at *
      omega
  · simp only [found, borrows, Option.bind_eq_bind, Option.bind_some, dite_false]
    refine ⟨_, rfl, ?_, ?_⟩
    all_goals
      simp only [nanosPerSecond] at *
      omega

/-- No step overflows, and what comes out are the whole milliseconds of the distance. -/
theorem elapsed?_eq_some (now last : Instant) :
    ∃ elapsed, now.elapsed? last = some elapsed ∧ elapsed.toInt = now.millisBetween last := by
  obtain ⟨span, found, length, short⟩ := span?_eq_some last now
  obtain ⟨millis, cut, signed⟩ := Span.millis?_eq_some short
  rw [length] at signed
  have magnitude : millis.toInt.natAbs = now.millisBetween last := by
    rw [signed, natAbs_tdiv, millisBetween]
  have short := now.millisBetween_lt last
  obtain ⟨elapsed, fits, same⟩ :=
    checked_eq_some millis.toInt.natAbs (by omega)
  refine ⟨elapsed, ?_, by rw [same, magnitude]⟩
  simp only [elapsed?, found, cut, fits, bind, Option.bind]

/-- Two milliseconds less a nanosecond, in both directions. -/
example : let shown : Instant := ⟨0, 1999999, by decide, by decide, by decide⟩
    shown.elapsed? .epoch = some 1 ∧ epoch.elapsed? shown = some 1 := by decide

end Instant

end WorkerVitals.Time
