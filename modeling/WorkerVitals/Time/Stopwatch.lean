import WorkerVitals.Time.Clock

namespace WorkerVitals.Time

/-- The reading at the last restart, if there was one. -/
structure Stopwatch where
  startedAt : Option Duration := none
  deriving DecidableEq

namespace Stopwatch

variable {C : Type} [Ticker C]

def isRunning (stopwatch : Stopwatch) : Bool := stopwatch.startedAt.isSome

/-- The time since the last restart, zero if the clock went back; `some none` before the first
one, when the clock is not read. Nothing is returned when the clock fails. -/
def elapsed (stopwatch : Stopwatch) (clock : C) : Option (Option Duration) × C :=
  match stopwatch.startedAt with
  | none => (some none, clock)
  | some start =>
    match Ticker.read clock with
    | (none, clock) => (none, clock)
    | (some reading, clock) => (some (some (reading.since start)), clock)

/-- The stopwatch started anew. The clock is read first, so that a failing read starts nothing. -/
def restart (_stopwatch : Stopwatch) (clock : C) : Option Stopwatch × C :=
  match Ticker.read clock with
  | (none, clock) => (none, clock)
  | (some reading, clock) => (some ⟨some reading⟩, clock)

/-- The elapsed time and then a restart. -/
def lap (stopwatch : Stopwatch) (clock : C) : Option (Option Duration × Stopwatch) × C :=
  match stopwatch.elapsed clock with
  | (none, clock) => (none, clock)
  | (some window, clock) =>
    match stopwatch.restart clock with
    | (none, clock) => (none, clock)
    | (some stopwatch, clock) => (some (window, stopwatch), clock)

end Stopwatch

end WorkerVitals.Time
