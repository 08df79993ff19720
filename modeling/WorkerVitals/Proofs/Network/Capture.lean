import WorkerVitals.Network.Probe
import WorkerVitals.Proofs.Time.Stopwatch

namespace WorkerVitals

theorem Sample.ext {a b : Sample} (same : a.value = b.value) : a = b := by
  cases a; cases b; cases same; rfl

def Sample.zero : Sample := ⟨0, by decide, by decide⟩

theorem Sample.of_eq_ok {value : Float} (nonneg : 0 ≤ value) (le_hundred : value ≤ 100) :
    Sample.of value = .ok ⟨value, nonneg, le_hundred⟩ := dif_pos ⟨nonneg, le_hundred⟩

namespace Network

theorem Counters.toNat_distance (a b : UInt64) :
    (distance a b).toNat = ((a.toNat : Int) - b.toNat).natAbs := by
  unfold distance
  split
  · rename_i le
    rw [UInt64.toNat_sub_of_le _ _ le]
    have le := UInt64.le_iff_toNat_le.mp le
    omega
  · rename_i gt
    have lt := UInt64.not_le.mp gt
    rw [UInt64.toNat_sub_of_le _ _ (UInt64.le_of_lt lt)]
    have lt := UInt64.lt_iff_toNat_lt.mp lt
    omega

theorem Counters.get_between (current previous : Counters) (direction : Direction) :
    (current.between previous).get direction =
      distance (current.get direction) (previous.get direction) := by
  cases direction <;> rfl

theorem Counters.get_zero (direction : Direction) : zero.get direction = 0 := by
  cases direction <;> rfl

theorem unsigned_rateMbps {bytes seconds : Float} (moved : Binary64.Unsigned bytes)
    (passed : Binary64.Unsigned seconds) : Binary64.Unsigned (rateMbps bytes seconds) := by
  have megabyte : Binary64.Unsigned 1048576 := rfl
  exact Binary64.unsigned_div (Binary64.unsigned_div moved megabyte) passed

/-- A rate without a minus sign is a percentage from 0 to 100, also when it is no number. -/
theorem percentageOf_range {rate bandwidth : Float} (unsigned : Binary64.Unsigned rate)
    (positive : 0 < bandwidth) :
    0 ≤ percentageOf rate bandwidth ∧ percentageOf rate bandwidth ≤ 100 := by
  have hundred : Binary64.Unsigned 100 := rfl
  have share := Binary64.unsigned_mul
    (Binary64.unsigned_div unsigned (Binary64.unsigned_of_pos positive)) hundred
  unfold percentageOf
  by_cases below : rate / bandwidth * 100 ≤ 100
  · simp only [if_pos below]
    exact ⟨Binary64.nonneg_of_unsigned share below, below⟩
  · simp only [if_neg below]
    decide

namespace Probe

variable {C : Type} [Time.Ticker C] {probe : Probe} {table : File.Content}

theorem of_eq_ok {direction : Direction} {ceiling : Ceiling} {config : Config}
    (made : Probe.of direction ceiling config = .ok probe) :
    ∃ positive, probe = ⟨direction, ceiling, config, positive, none, {}⟩ := by
  unfold Probe.of at made
  split at made
  · rename_i positive
    exact ⟨positive, (Except.ok.inj made).symm⟩
  · cases made

/-- A fresh probe of the bytes received on the default interface. -/
def inbound : Probe := ⟨.received, ⟨100, by decide, by decide⟩, {}, by decide, none, {}⟩

@[simp] theorem readCounters_replaceCounters (probe : Probe) (counters : Counters)
    (table : File.Content) :
    (probe.replaceCounters counters).2.readCounters table = probe.readCounters table := by
  cases table <;> rfl

@[simp] theorem stopwatch_replaceCounters (probe : Probe) (counters : Counters) :
    (probe.replaceCounters counters).2.stopwatch = probe.stopwatch := rfl

theorem measure_percentage_range (probe : Probe) (delta : Counters) {seconds : Float}
    (passed : Binary64.Unsigned seconds) :
    0 ≤ (probe.measure delta seconds).percentage ∧ (probe.measure delta seconds).percentage ≤ 100 :=
  percentageOf_range (unsigned_rateMbps (Binary64.unsigned_toFloat _) passed) probe.bandwidth_pos

theorem measure_zero (probe : Probe) {seconds : Float} (passed : 0 < seconds) :
    probe.measure .zero seconds =
      { interface := probe.config.interface, direction := probe.direction, deltaBytes := 0
        elapsedSecs := seconds, rateMbps := 0, percentage := 0 } := by
  have nothing : (0 : UInt64).toFloat / 1048576 = 0 := by decide
  have rate : rateMbps (0 : UInt64).toFloat seconds = 0 := by
    rw [rateMbps, nothing, Binary64.zero_div_of_pos passed]
  have share : percentageOf 0 probe.config.maxBandwidthMbps = 0 := by
    unfold percentageOf
    rw [Binary64.zero_div_of_pos probe.bandwidth_pos]
    decide
  simp only [measure, Counters.get_zero, rate, share]

private theorem of_zero : Sample.of 0 = .ok .zero :=
  Sample.of_eq_ok Sample.zero.nonneg Sample.zero.le_hundred

theorem conclude_first (probe : Probe) :
    probe.conclude .zero none =
      { outcome := some (.ok .zero)
        events := [.utilization
          { interface := probe.config.interface, direction := probe.direction, deltaBytes := 0
            elapsedSecs := 1, rateMbps := 0, percentage := 0 }] } := by
  have passed : (0 : Float) < 1 := by decide
  simp only [conclude, seconds, measure_zero probe passed, of_zero]

/-- When time has passed and nothing was moved, the sample is zero. -/
theorem conclude_idle (probe : Probe) {elapsed : Time.Duration} (passed : 0 < elapsed.nanos) :
    probe.conclude .zero (some elapsed) =
      { outcome := some (.ok .zero)
        events := [.utilization
          { interface := probe.config.interface, direction := probe.direction, deltaBytes := 0
            elapsedSecs := elapsed.toFloat, rateMbps := 0, percentage := 0 }] } := by
  have moved : ¬elapsed.nanos = 0 := Nat.ne_of_gt passed
  simp only [conclude, seconds, if_neg moved, measure_zero probe (Time.Duration.toFloat_pos passed),
    of_zero]

theorem conclude_stalled (probe : Probe) (delta : Counters) {elapsed : Time.Duration}
    (still : elapsed.nanos = 0) :
    probe.conclude delta (some elapsed) =
      { outcome := some (.error (.noTimeElapsed probe.config.statFile)) } := by
  simp only [conclude, seconds, if_pos still]

theorem conclude_elapsed (probe : Probe) (delta : Counters) {elapsed : Time.Duration}
    (passed : 0 < elapsed.nanos) :
    ∃ sample : Sample, sample.value = (probe.measure delta elapsed.toFloat).percentage ∧
      probe.conclude delta (some elapsed) =
        { outcome := some (.ok sample)
          events := [.utilization (probe.measure delta elapsed.toFloat)] } := by
  obtain ⟨nonneg, le_hundred⟩ := probe.measure_percentage_range delta elapsed.unsigned_toFloat
  refine ⟨⟨_, nonneg, le_hundred⟩, rfl, ?_⟩
  have moved : ¬ elapsed.nanos = 0 := Nat.ne_of_gt passed
  simp only [conclude, seconds, if_neg moved, Sample.of_eq_ok nonneg le_hundred]

theorem capture_unread {fault : Fault} (failed : probe.readCounters table = .error fault)
    (clock : C) :
    probe.capture table clock = ({ outcome := some (.error fault) }, probe, clock) := by
  simp only [capture, failed]

/-- A table that was read leaves the capture to the lap of the stopwatch. -/
theorem capture_read {counters : Counters} {clock after : C} {elapsed : Option Time.Duration}
    {stopwatch : Time.Stopwatch} (read : probe.readCounters table = .ok counters)
    (lapped : probe.stopwatch.lap clock = (some (elapsed, stopwatch), after)) :
    probe.capture table clock =
      (probe.conclude (probe.replaceCounters counters).1 elapsed,
        { probe with lastCounters := some counters, stopwatch }, after) := by
  simp only [capture, read]
  simp only [replaceCounters, lapped]
  rfl

/-- The last section of a capture: the lap of the stopwatch, and what follows from it. -/
def finish (probe : Probe) (delta : Counters) (clock : C) : Capture × Probe × C :=
  match probe.stopwatch.lap clock with
  | (none, clock) => ({ outcome := none }, probe, clock)
  | (some (elapsed, stopwatch), clock) =>
    (probe.conclude delta elapsed, { probe with stopwatch }, clock)

/-- A capture is its three sections, one after the other. -/
theorem capture_sections (clock : C) :
    probe.capture table clock = match probe.readCounters table with
      | .error fault => ({ outcome := some (.error fault) }, probe, clock)
      | .ok counters =>
        (probe.replaceCounters counters).2.finish (probe.replaceCounters counters).1 clock := rfl

@[simp] theorem readCounters_finish (probe : Probe) (delta : Counters) (clock : C)
    (table : File.Content) :
    (probe.finish delta clock).2.1.readCounters table = probe.readCounters table := by
  unfold finish
  split <;> cases table <;> rfl

@[simp] theorem lastCounters_finish (probe : Probe) (delta : Counters) (clock : C) :
    (probe.finish delta clock).2.1.lastCounters = probe.lastCounters := by
  unfold finish
  split <;> rfl

/-- A clock that fails unwinds a capture that has replaced the counters by then. -/
theorem capture_unwound {counters : Counters} {clock : C}
    (read : probe.readCounters table = .ok counters)
    (failed : (probe.stopwatch.lap clock).1 = none) :
    (probe.capture table clock).1 = { outcome := none } ∧
      (probe.capture table clock).2.1 = { probe with lastCounters := some counters } := by
  have pair : probe.stopwatch.lap clock = (none, (probe.stopwatch.lap clock).2) :=
    Prod.ext failed rfl
  simp only [capture, read, replaceCounters]
  rw [pair]
  exact ⟨rfl, rfl⟩

theorem conclude_outcome (probe : Probe) (delta : Counters) (elapsed : Option Time.Duration) :
    ∃ outcome, (probe.conclude delta elapsed).outcome = some outcome := by
  unfold conclude
  split
  · exact ⟨_, rfl⟩
  · exact ⟨_, rfl⟩

/-- With a good clock a capture comes to an outcome, and leaves the clock good. -/
theorem capture_reliable {Good : C → Prop}
    (reliable : ∀ clock, Good clock →
      ∃ now after, Time.Ticker.read clock = (some now, after) ∧ Good after)
    (probe : Probe) (table : File.Content) {clock : C} (good : Good clock) :
    (∃ outcome, (probe.capture table clock).1.outcome = some outcome) ∧
      Good (probe.capture table clock).2.2 := by
  cases read : probe.readCounters table with
  | error fault =>
    rw [capture_unread read]
    exact ⟨⟨_, rfl⟩, good⟩
  | ok counters =>
    obtain ⟨elapsed, next, after, lapped, kept⟩ := probe.stopwatch.lap_reliable reliable good
    rw [capture_read read lapped]
    exact ⟨conclude_outcome .., kept⟩

theorem capture_answered (reliable : ∀ clock : C, ∃ now, (Time.Ticker.read clock).1 = some now)
    (probe : Probe) (table : File.Content) (clock : C) :
    ∃ outcome, (probe.capture table clock).1.outcome = some outcome := by
  have always (clock : C) (_ : True) :
      ∃ now after, Time.Ticker.read clock = (some now, after) ∧ True := by
    obtain ⟨now, reads⟩ := reliable clock
    exact ⟨now, _, Prod.ext reads rfl, trivial⟩
  exact (capture_reliable always probe table trivial).1

theorem of_mem_events_capture {clock : C} {event : Event}
    (logged : event ∈ (probe.capture table clock).1.events) :
    ∃ measured, event = .utilization measured := by
  unfold capture at logged
  split at logged
  · cases logged
  · dsimp only at logged
    split at logged
    · cases logged
    · unfold conclude at logged
      split at logged
      · cases logged
      · exact ⟨_, List.mem_singleton.mp logged⟩

theorem utilization_conclude {delta : Counters} {elapsed : Option Time.Duration}
    {measured : Utilization}
    (logged : .utilization measured ∈ (probe.conclude delta elapsed).events) :
    ∃ seconds, probe.seconds elapsed = .ok seconds ∧ measured = probe.measure delta seconds := by
  unfold conclude at logged
  split at logged
  · cases logged
  · rename_i seconds passed
    have same := List.mem_singleton.mp logged
    exact ⟨seconds, passed, Event.utilization.inj same⟩

end Probe

end Network

end WorkerVitals
