import WorkerVitals.Proofs.Binary64.Positive
import WorkerVitals.Time.Stopwatch

namespace WorkerVitals.Time

namespace Duration

theorem ext {a b : Duration} (same : a.nanos = b.nanos) : a = b := by
  cases a; cases b; cases same; rfl

theorem unsigned_toFloat (d : Duration) : Binary64.Unsigned d.toFloat := by
  have seconds := Binary64.unsigned_toFloat d.seconds.toUInt64
  have fraction := Binary64.unsigned_toFloat d.subsecond.toUInt64
  have billion : Binary64.Unsigned 1e9 := rfl
  exact Binary64.unsigned_add seconds (Binary64.unsigned_div fraction billion)

private theorem toUInt64_ne_zero {n : Nat} (positive : 0 < n) (small : n < UInt64.size) :
    n.toUInt64 ≠ 0 := by
  intro zero
  have value : n.toUInt64.toNat = n := Nat.mod_eq_of_lt small
  rw [zero] at value
  exact Nat.ne_of_gt positive value.symm

/-- Time that has passed is more than zero seconds, however they are rounded. -/
theorem toFloat_pos {d : Duration} (passed : 0 < d.nanos) : 0 < d.toFloat := by
  have billion : (1e9 : Float).toModel.unpack =
      .finite .positive (1000000000 * 2 ^ 23) (-23) (by decide) := rfl
  have large : Binary64.Large (1e9 : Float).toModel.unpack := by decide
  have unsigned := Binary64.unsigned_div (Binary64.unsigned_toFloat d.subsecond.toUInt64)
    (Binary64.unsigned_of_pos (by decide : (0 : Float) < 1e9))
  have parts : d.seconds * nanosPerSecond + d.subsecond = d.nanos := Nat.div_add_mod' ..
  apply Binary64.pos_of_unsigned d.unsigned_toFloat
  -- A nanosecond is more than 2 to the power of -30 seconds, and so far above the least number.
  refine Binary64.reaches_add (Binary64.isFinite_toFloat _) (Binary64.unsigned_toFloat _)
    (Binary64.isFinite_div (Binary64.isFinite_toFloat _) large) unsigned
    (by decide : (-1073 : Int) ≤ 1 - 30) ?_
  by_cases whole : d.subsecond = 0
  · have seconds : 0 < d.seconds := by
      rw [whole, Nat.add_zero] at parts
      exact Nat.pos_of_mul_pos_right (parts ▸ passed)
    have few : d.seconds < UInt64.size :=
      Nat.div_lt_of_lt_mul (Nat.mul_comm .. ▸ d.nanos_lt)
    exact .inl ((Binary64.reaches_toFloat (toUInt64_ne_zero seconds few)).mono (by decide))
  · have few : d.subsecond < UInt64.size :=
      Nat.lt_trans (Nat.mod_lt _ (by decide)) (by decide : nanosPerSecond < UInt64.size)
    have reached := Binary64.reaches_toFloat
      (toUInt64_ne_zero (Nat.pos_of_ne_zero whole) few)
    exact .inr ((Binary64.reaches_div reached billion (by decide)).mono (by decide))

end Duration

namespace Stopwatch

variable {C : Type} [Ticker C] {stopwatch : Stopwatch} {clock : C}

theorem lap_unstarted {now : Duration} (idle : stopwatch.startedAt = none)
    (reads : (Ticker.read clock).1 = some now) :
    stopwatch.lap clock = (some (none, ⟨some now⟩), (Ticker.read clock).2) := by
  have pair : Ticker.read clock = (some now, (Ticker.read clock).2) := Prod.ext reads rfl
  simp only [lap, elapsed, idle, restart]
  rw [pair]

theorem lap_started {start first second : Duration} (running : stopwatch.startedAt = some start)
    (reads : (Ticker.read clock).1 = some first)
    (rereads : (Ticker.read (Ticker.read clock).2).1 = some second) :
    stopwatch.lap clock = (some (some (first.since start), ⟨some second⟩),
      (Ticker.read (Ticker.read clock).2).2) := by
  have pair : Ticker.read clock = (some first, (Ticker.read clock).2) := Prod.ext reads rfl
  have later : Ticker.read (Ticker.read clock).2 =
      (some second, (Ticker.read (Ticker.read clock).2).2) := Prod.ext rereads rfl
  simp only [lap, elapsed, running, restart]
  rw [pair]
  dsimp only
  rw [later]

theorem lap_reliable {Good : C → Prop}
    (reliable : ∀ clock, Good clock → ∃ now after, Ticker.read clock = (some now, after) ∧ Good after)
    (stopwatch : Stopwatch) {clock : C} (good : Good clock) :
    ∃ elapsed next after, stopwatch.lap clock = (some (elapsed, next), after) ∧ Good after := by
  obtain ⟨first, once, reads, held⟩ := reliable clock good
  obtain ⟨second, twice, rereads, kept⟩ := reliable once held
  cases started : stopwatch.startedAt with
  | none =>
    have lapped := lap_unstarted started (congrArg Prod.fst reads)
    rw [reads] at lapped
    exact ⟨_, _, once, lapped, held⟩
  | some start =>
    have again : (Ticker.read (Ticker.read clock).2).1 = some second := by rw [reads, rereads]
    have lapped := lap_started started (congrArg Prod.fst reads) again
    rw [reads, rereads] at lapped
    exact ⟨_, _, twice, lapped, kept⟩

/-- The reading that restarts a stopwatch in a lap: the first one before it runs, the second one
while it runs. There is none when the clock fails until then. -/
def restartReading (running : Bool) (clock : C) : Option Duration :=
  if running then (Ticker.read clock).1.bind fun _ => (Ticker.read (Ticker.read clock).2).1
  else (Ticker.read clock).1

/-- A lap comes to nothing when the clock fails before the restart. -/
theorem lap_unwound (failed : restartReading stopwatch.isRunning clock = none) :
    (stopwatch.lap clock).1 = none := by
  cases started : stopwatch.startedAt with
  | none =>
    have failed : (Ticker.read clock).1 = none := by
      simpa [restartReading, isRunning, started] using failed
    have pair : Ticker.read clock = (none, (Ticker.read clock).2) := Prod.ext failed rfl
    simp only [lap, elapsed, started, restart]
    rw [pair]
  | some start =>
    have running : stopwatch.isRunning = true := by simp [isRunning, started]
    rw [running, restartReading, if_pos rfl] at failed
    cases first : (Ticker.read clock).1 with
    | none =>
      have pair : Ticker.read clock = (none, (Ticker.read clock).2) := Prod.ext first rfl
      simp only [lap, elapsed, started]
      rw [pair]
    | some reading =>
      rw [first, Option.bind_some] at failed
      have pair : Ticker.read clock = (some reading, (Ticker.read clock).2) := Prod.ext first rfl
      have later : Ticker.read (Ticker.read clock).2 =
          (none, (Ticker.read (Ticker.read clock).2).2) := Prod.ext failed rfl
      simp only [lap, elapsed, started, restart]
      rw [pair]
      dsimp only
      rw [later]

/-- Otherwise a lap measures from the last restart, if there was one, to the first reading. -/
theorem lap_restarted {now : Duration}
    (reads : restartReading stopwatch.isRunning clock = some now) :
    ∃ after, stopwatch.lap clock =
      (some (stopwatch.startedAt.bind fun start => (Ticker.read clock).1.map (·.since start),
        ⟨some now⟩), after) := by
  cases started : stopwatch.startedAt with
  | none =>
    have reads : (Ticker.read clock).1 = some now := by
      simpa [restartReading, isRunning, started] using reads
    exact ⟨_, lap_unstarted started reads⟩
  | some start =>
    have running : stopwatch.isRunning = true := by simp [isRunning, started]
    rw [running, restartReading, if_pos rfl] at reads
    obtain ⟨first, found, second⟩ := Option.bind_eq_some_iff.mp reads
    refine ⟨(Ticker.read (Ticker.read clock).2).2, ?_⟩
    rw [lap_started started found second]
    simp [found]

end Stopwatch

end WorkerVitals.Time
