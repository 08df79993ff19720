import WorkerVitals.Time.Instant

namespace WorkerVitals.Time

/-- A length of time in nanoseconds, its whole seconds being a 64-bit word. -/
structure Duration where
  nanos : Nat
  nanos_lt : nanos < UInt64.size * nanosPerSecond
  deriving DecidableEq

namespace Duration

instance : Inhabited Duration := ⟨⟨0, by decide⟩⟩

def zero : Duration := ⟨0, by decide⟩

/-- The duration of so many nanoseconds, or the longest one. -/
def ofNanos (nanos : Nat) : Duration :=
  ⟨min nanos (UInt64.size * nanosPerSecond - 1), by
    have positive : 0 < UInt64.size * nanosPerSecond := by decide
    omega⟩

def ofParts (seconds nanos : Nat) : Duration := ofNanos (seconds * nanosPerSecond + nanos)

def seconds (d : Duration) : Nat := d.nanos / nanosPerSecond

/-- The nanoseconds after the whole seconds. -/
def subsecond (d : Duration) : Nat := d.nanos % nanosPerSecond

/-- The sum, or the longest duration. -/
def add (a b : Duration) : Duration := ofNanos (a.nanos + b.nanos)

/-- The time from `b` to `a`, zero if `a` is earlier. -/
def since (a b : Duration) : Duration := ⟨a.nanos - b.nanos, by have := a.nanos_lt; omega⟩

/-- Seconds as a binary64 number: the whole seconds and the fraction are each rounded before they
are added. -/
def toFloat (d : Duration) : Float :=
  d.seconds.toUInt64.toFloat + d.subsecond.toUInt64.toFloat / 1e9

end Duration

/-- A clock with which time can be measured: a read gives the time since a fixed moment, or fails,
and may change the clock. -/
class Ticker (C : Type) where
  read : C → Option Duration × C

/-- A clock under control: it shows `now`, moves on by `step` with each read, and fails once after
as many good reads as `failsAfter` says. -/
structure Clock where
  now : Duration := .zero
  step : Duration := .zero
  failsAfter : Option Nat := none
  deriving DecidableEq

/-- A failing read leaves the time as it is. -/
def Clock.read (clock : Clock) : Option Duration × Clock :=
  match clock.failsAfter with
  | some 0 => (none, { clock with failsAfter := none })
  | some (left + 1) =>
    (some clock.now, { clock with now := clock.now.add clock.step, failsAfter := some left })
  | none => (some clock.now, { clock with now := clock.now.add clock.step })

instance : Ticker Clock := ⟨Clock.read⟩

/-- A clock that never fails nor stands still between reads. -/
def Clock.steady : Clock := { step := .ofNanos nanosPerMilli }

end WorkerVitals.Time
