import WorkerVitals.Proofs.Time.Stopwatch

namespace WorkerVitals.Time

variable {C : Type} [Ticker C]

structure Recorded (C : Type) where
  clock : C
  readings : List (Option Duration) := []

instance : Ticker (Recorded C) where
  read recorded :=
    ((Ticker.read recorded.clock).1,
      { clock := (Ticker.read recorded.clock).2
        readings := recorded.readings ++ [(Ticker.read recorded.clock).1] })

theorem read_recorded (recorded : Recorded C) :
    Ticker.read recorded =
      ((Ticker.read recorded.clock).1,
        { clock := (Ticker.read recorded.clock).2
          readings := recorded.readings ++ [(Ticker.read recorded.clock).1] }) := rfl

namespace Stopwatch

/-- What the reads of a clock in a lap give, in order. -/
def lapReadings (stopwatch : Stopwatch) (clock : C) : List (Option Duration) :=
  (stopwatch.lap ({ clock } : Recorded C)).2.readings

/-- What a lap can come to, with what its reads gave: it ends with the first read that fails. -/
inductive Lapped (stopwatch : Stopwatch) :
    Option (Option Duration × Stopwatch) → List (Option Duration) → Prop where
  | unread : Lapped stopwatch none [none]
  | started (now : Duration) (idle : stopwatch.startedAt = none) :
      Lapped stopwatch (some (none, ⟨some now⟩)) [some now]
  | unwound (first : Duration) : Lapped stopwatch none [some first, none]
  | measured (start first second : Duration) (running : stopwatch.startedAt = some start) :
      Lapped stopwatch (some (some (first.since start), ⟨some second⟩)) [some first, some second]

theorem lapped_lap (stopwatch : Stopwatch) (clock : C) :
    stopwatch.Lapped (stopwatch.lap clock).1 (stopwatch.lapReadings clock) := by
  cases running : stopwatch.startedAt with
  | none =>
    rcases read : Ticker.read clock with ⟨_ | now, after⟩
    · simpa [lap, elapsed, restart, lapReadings, read_recorded, running, read] using .unread
    · simpa [lap, elapsed, restart, lapReadings, read_recorded, running, read]
        using .started now running
  | some start =>
    rcases read : Ticker.read clock with ⟨_ | first, once⟩
    · simpa [lap, elapsed, lapReadings, read_recorded, running, read] using .unread
    · rcases reread : Ticker.read once with ⟨_ | second, twice⟩
      · simpa [lap, elapsed, restart, lapReadings, read_recorded, running, read, reread]
          using .unwound first
      · simpa [lap, elapsed, restart, lapReadings, read_recorded, running, read, reread]
          using .measured start first second running

end Stopwatch

end WorkerVitals.Time
