namespace WorkerVitals.Time

def nanosPerSecond : Nat := 1000000000

def nanosPerMilli : Nat := 1000000

/-- Seconds since the epoch, and the nanoseconds after them. -/
structure Instant where
  seconds : Int
  nanos : Nat
  nanos_lt : nanos < nanosPerSecond
  first_le : -8334601228800 ≤ seconds
  le_last : seconds ≤ 8210266876799
  deriving DecidableEq

def Instant.epoch : Instant := ⟨0, 0, by decide, by decide, by decide⟩

def Instant.of? (seconds : Int) (nanos : Nat) : Option Instant :=
  if within : nanos < nanosPerSecond ∧ -8334601228800 ≤ seconds ∧ seconds ≤ 8210266876799 then
    some ⟨seconds, nanos, within.1, within.2.1, within.2.2⟩
  else none

/-- Nanoseconds since the epoch. -/
def Instant.sinceEpoch (instant : Instant) : Int :=
  instant.seconds * nanosPerSecond + instant.nanos

/-- The whole milliseconds between two instants, whichever is earlier. -/
def Instant.millisBetween (a b : Instant) : Nat :=
  (a.sinceEpoch - b.sinceEpoch).natAbs / nanosPerMilli

/-- The seconds of an instant fit a 64-bit number by far. -/
def Instant.epochSeconds (instant : Instant) : Int64 := .ofInt instant.seconds

end WorkerVitals.Time
