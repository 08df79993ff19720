import WorkerVitals.Proofs.Network.Table
import WorkerVitals.Proofs.Network.Threads
import WorkerVitals.Proofs.Network.Unwinding

namespace WorkerVitals

/-- The capture was not refused for a sample out of range. -/
def Capture.InRange (capture : Capture) : Prop :=
  ∀ value, capture.outcome ≠ some (.error (.sampleOutOfRange value))

namespace Network

variable {C : Type} [Time.Ticker C]

namespace Probe

theorem exists_of_iff {direction : Direction} {ceiling : Ceiling} {config : Config} :
    (∃ probe, Probe.of direction ceiling config = .ok probe) ↔
      config.maxBandwidthMbps.isNaN = false ∧ ¬config.maxBandwidthMbps ≤ 0 := by
  rw [← Binary64.pos_iff]
  constructor
  · rintro ⟨probe, made⟩
    obtain ⟨positive, -⟩ := of_eq_ok made
    exact positive
  · intro positive
    exact ⟨_, dif_pos positive⟩

theorem inRange_of_readCounters {probe : Probe} {table : File.Content} {fault : Fault}
    (failed : probe.readCounters table = .error fault) :
    ({ outcome := some (.error fault) } : Capture).InRange := by
  rintro value ⟨⟩
  cases table with
  | missing => cases failed
  | failed failure => cases failed
  | text characters => cases Table.counters_eq_iff.mp failed

theorem inRange_conclude (probe : Probe) (delta : Counters) (elapsed : Option Time.Duration) :
    (probe.conclude delta elapsed).InRange := by
  intro value
  cases elapsed with
  | none =>
    have second : Binary64.Unsigned 1 := rfl
    obtain ⟨nonneg, le_hundred⟩ := probe.measure_percentage_range delta second
    simp [conclude, seconds, Sample.of_eq_ok nonneg le_hundred]
  | some elapsed =>
    by_cases still : elapsed.nanos = 0
    · simp [probe.conclude_stalled delta still]
    · obtain ⟨sample, -, measured⟩ :=
        probe.conclude_elapsed delta (Nat.pos_of_ne_zero still)
      simp [measured]

theorem Finishes.inRange {probe after : Probe} {delta : Counters} {capture : Capture}
    {readings : List (Option Time.Duration)}
    (finishes : probe.Finishes delta capture after readings) : capture.InRange := by
  cases finishes with
  | unread => rintro value ⟨⟩
  | unwound => rintro value ⟨⟩
  | started => apply inRange_conclude
  | measured => apply inRange_conclude

theorem inRange_capture (probe : Probe) (table : File.Content) (clock : C) :
    (probe.capture table clock).1.InRange := by
  rw [capture_sections]
  cases read : probe.readCounters table with
  | error fault => exact inRange_of_readCounters read
  | ok counters => exact (finishes_finish _ _ clock).inRange

end Probe

namespace Threads

theorem inRange_step {state : Threads} (kept : ∀ ended ∈ state.ended, ended.capture.InRange)
    (slice : Slice C) : ∀ ended ∈ (state.step slice).ended, ended.capture.InRange := by
  have advances := advances_step state slice
  generalize state.step slice = after at advances ⊢
  cases advances with
  | rests => exact kept
  | read => exact kept
  | replace => exact kept
  | unread _ failed =>
    exact List.forall_mem_append.mpr
      ⟨kept, List.forall_mem_singleton.mpr (Probe.inRange_of_readCounters failed)⟩
  | finish _ finishes =>
    exact List.forall_mem_append.mpr ⟨kept, List.forall_mem_singleton.mpr finishes.inRange⟩

theorem inRange_run (probe : Probe) (captures : List Nat) (slices : List (Slice C)) :
    ∀ ended ∈ ((start probe captures).run slices).ended, ended.capture.InRange := by
  induction slices using List.reverseRecOn with
  | nil => rintro ended ⟨⟩
  | append_singleton earlier slice ih =>
    rw [run_concat]
    exact inRange_step ih slice

end Threads

/-- The percentage in exact arithmetic. -/
def share (delta elapsed bandwidth : ℚ) : ℚ := percentageOf (rateMbps delta elapsed) bandwidth

section Share

variable {delta elapsed bandwidth : ℚ}

/-- A hundred percent are the bytes that fit the bandwidth in the time. -/
theorem share_eq_min (delta elapsed bandwidth : ℚ) :
    share delta elapsed bandwidth = min (delta / (2 ^ 20 * bandwidth * elapsed) * 100) 100 := by
  have quotient : rateMbps delta elapsed / bandwidth = delta / (2 ^ 20 * bandwidth * elapsed) := by
    rw [rateMbps, div_div, div_div, mul_comm elapsed bandwidth, ← mul_assoc]
    norm_num
  rw [share, percentageOf, quotient, min_def]

theorem capacity_pos (passed : 0 < elapsed) (positive : 0 < bandwidth) :
    0 < 2 ^ 20 * bandwidth * elapsed := by positivity

theorem share_eq_zero_iff (passed : 0 < elapsed) (positive : 0 < bandwidth) :
    share delta elapsed bandwidth = 0 ↔ delta = 0 := by
  have capacity := capacity_pos passed positive
  rw [share_eq_min]
  constructor
  · intro none
    rcases min_choice (delta / (2 ^ 20 * bandwidth * elapsed) * 100) 100 with part | full
    · rw [part] at none
      simpa [capacity.ne', passed.ne', positive.ne'] using none
    · rw [full] at none
      norm_num at none
  · rintro rfl
    simp

theorem share_eq_hundred_iff (passed : 0 < elapsed) (positive : 0 < bandwidth) :
    share delta elapsed bandwidth = 100 ↔ 2 ^ 20 * bandwidth * elapsed ≤ delta := by
  rw [share_eq_min, min_eq_right_iff, ← one_le_div (capacity_pos passed positive)]
  constructor
  · intro full
    linarith
  · intro full
    linarith

theorem share_scaled {factor : ℚ} (nonzero : factor ≠ 0) (delta elapsed bandwidth : ℚ) :
    share (factor * delta) (factor * elapsed) bandwidth = share delta elapsed bandwidth := by
  rw [share_eq_min, share_eq_min, mul_left_comm, mul_div_mul_left _ _ nonzero]

theorem share_mono (passed : 0 < elapsed) (positive : 0 < bandwidth) :
    Monotone fun delta => share delta elapsed bandwidth := by
  intro less more ordered
  have capacity := capacity_pos passed positive
  simp only [share_eq_min]
  gcongr

theorem share_anti_elapsed (moved : 0 ≤ delta) (positive : 0 < bandwidth) :
    AntitoneOn (fun elapsed => share delta elapsed bandwidth) (Set.Ioi 0) := by
  intro short passed long _ ordered
  have capacity := capacity_pos passed positive
  simp only [share_eq_min]
  gcongr

theorem share_anti_bandwidth (moved : 0 ≤ delta) (passed : 0 < elapsed) :
    AntitoneOn (fun bandwidth => share delta elapsed bandwidth) (Set.Ioi 0) := by
  intro narrow positive wide _ ordered
  have capacity := capacity_pos passed positive
  simp only [share_eq_min]
  gcongr

end Share

/-- A bandwidth is accepted when it is a number above zero, be it infinite or the least there is.
Then what is measured is the rate of the bytes of its direction in percent of the bandwidth. Between
any two counters, in any time that has passed, it is a percentage from 0 to 100, and no capture is
refused for its sample, in a run under a clock that may fail or on any threads. In exact arithmetic
the same percentage is 0 for no bytes only, and 100 from the bytes that fit the bandwidth in the
time; it depends on the bytes per time, grows with the bytes, and shrinks with the time and with the
bandwidth. -/
theorem percentage_is_sample (direction : Direction) (ceiling : Ceiling) (config : Config) :
    ((∃ probe, Probe.of direction ceiling config = .ok probe) ↔
      config.maxBandwidthMbps.isNaN = false ∧ ¬config.maxBandwidthMbps ≤ 0) ∧
    (∀ probe, Probe.of direction ceiling config = .ok probe →
      (∀ (delta : Counters) (seconds : Float), (probe.measure delta seconds).percentage =
        percentageOf (rateMbps (delta.get direction).toFloat seconds) config.maxBandwidthMbps) ∧
      (∀ (previous current : Counters) (elapsed : Time.Duration), elapsed.nanos ≠ 0 →
        let percentage := (probe.measure (current.between previous) elapsed.toFloat).percentage
        percentage.isNaN = false ∧ 0 ≤ percentage ∧ percentage ≤ 100 ∧
          ∃ sample : Sample, sample.value = percentage ∧
            (probe.conclude (current.between previous) (some elapsed)).outcome =
              some (.ok sample)) ∧
      (∀ (attempts : List (Attempt C)) (attempt : Attempt C),
        ((probe.attempting attempts).capture attempt.table attempt.clock).1.InRange) ∧
      ∀ (captures : List Nat) (slices : List (Slice C)),
        ∀ ended ∈ ((Threads.start probe captures).run slices).ended, ended.capture.InRange) ∧
    ∀ delta elapsed bandwidth : ℚ, 0 ≤ delta → 0 < elapsed → 0 < bandwidth →
      (share delta elapsed bandwidth = 0 ↔ delta = 0) ∧
      (share delta elapsed bandwidth = 100 ↔ 2 ^ 20 * bandwidth * elapsed ≤ delta) ∧
      (∀ factor, 0 < factor →
        share (factor * delta) (factor * elapsed) bandwidth = share delta elapsed bandwidth) ∧
      (∀ more, delta ≤ more → share delta elapsed bandwidth ≤ share more elapsed bandwidth) ∧
      (∀ longer, elapsed ≤ longer →
        share delta longer bandwidth ≤ share delta elapsed bandwidth) ∧
      ∀ wider, bandwidth ≤ wider → share delta elapsed wider ≤ share delta elapsed bandwidth := by
  refine ⟨Probe.exists_of_iff, ?_, ?_⟩
  · intro probe made
    refine ⟨?_, ?_, fun attempts attempt => Probe.inRange_capture _ attempt.table attempt.clock,
      Threads.inRange_run probe⟩
    · obtain ⟨_, rfl⟩ := Probe.of_eq_ok made
      exact fun _ _ => rfl
    intro previous current elapsed passed percentage
    obtain ⟨nonneg, le_hundred⟩ :=
      probe.measure_percentage_range (current.between previous) elapsed.unsigned_toFloat
    obtain ⟨sample, value, concluded⟩ :=
      probe.conclude_elapsed (current.between previous) (Nat.pos_of_ne_zero passed)
    exact ⟨Binary64.isNaN_of_le le_hundred, nonneg, le_hundred, sample, value, by rw [concluded]⟩
  · intro delta elapsed bandwidth moved passed positive
    refine ⟨share_eq_zero_iff passed positive, share_eq_hundred_iff passed positive,
      fun factor above => share_scaled above.ne' .., fun more grown => ?_, fun longer grown => ?_,
      fun wider grown => ?_⟩
    · exact share_mono passed positive grown
    · exact share_anti_elapsed moved positive passed (passed.trans_le grown) grown
    · exact share_anti_bandwidth moved passed positive (positive.trans_le grown) grown

/-- The least bandwidth there is, and one without end, with all that a counter can hold moved back
in a nanosecond; and a tenth of a bandwidth, which is ten percent. -/
theorem percentage_is_sample_extremes :
    let narrow : Config := { maxBandwidthMbps := Float.ofBits 1 }
    let endless : Config := { maxBandwidthMbps := 1 / 0 }
    let tenfold : Config := { maxBandwidthMbps := 10 }
    let moved : Counters := Counters.between ⟨0, 7⟩ ⟨18446744073709551615, 7⟩
    let moment : Time.Duration := .ofNanos 1
    ∃ first last middle,
      Probe.of .received Probe.inbound.ceiling narrow = .ok first ∧
        Probe.of .received Probe.inbound.ceiling endless = .ok last ∧
        Probe.of .received Probe.inbound.ceiling tenfold = .ok middle ∧
        (first.measure moved moment.toFloat).percentage.isNaN = false ∧
        (∃ sample, (first.conclude moved (some moment)).outcome = some (.ok sample)) ∧
        (last.measure moved moment.toFloat).percentage.isNaN = false ∧
        (∃ sample, (last.conclude moved (some moment)).outcome = some (.ok sample)) ∧
        (middle.measure ⟨1048576, 0⟩ 1).percentage = 10 ∧
        share 1048576 1 10 = 10 ∧
        share 2097152 (1 / 2) 10 = share 1048576 (1 / 4) 10 := by
  intro narrow endless tenfold moved moment
  obtain ⟨accepted, samples, exact⟩ :=
    percentage_is_sample (C := Time.Clock) .received Probe.inbound.ceiling narrow
  obtain ⟨accepted', samples', -⟩ :=
    percentage_is_sample (C := Time.Clock) .received Probe.inbound.ceiling endless
  obtain ⟨acceptedTenfold, samplesTenfold, -⟩ :=
    percentage_is_sample (C := Time.Clock) .received Probe.inbound.ceiling tenfold
  obtain ⟨first, made⟩ := accepted.mpr ⟨by decide, by decide⟩
  obtain ⟨last, made'⟩ := accepted'.mpr ⟨by decide, by decide⟩
  obtain ⟨middle, madeTenfold⟩ := acceptedTenfold.mpr ⟨by decide, by decide⟩
  have passed : moment.nanos ≠ 0 := by decide
  obtain ⟨number, -, -, sample, -, ended⟩ := (samples first made).2.1 _ _ moment passed
  obtain ⟨number', -, -, sample', -, ended'⟩ := (samples' last made').2.1 _ _ moment passed
  have tenth : (middle.measure ⟨1048576, 0⟩ 1).percentage = 10 := by
    rw [(samplesTenfold middle madeTenfold).1]
    decide +kernel
  obtain ⟨-, -, scaled, -⟩ := exact 1048576 (1 / 4) 10 (by norm_num) (by norm_num) (by norm_num)
  have twice := scaled 2 (by norm_num)
  have exactTenth : share 1048576 1 10 = 10 := by
    rw [share_eq_min]
    norm_num
  refine ⟨first, last, middle, made, made', madeTenfold, number, ⟨sample, ended⟩, number',
    ⟨sample', ended'⟩, tenth, exactTenth, ?_⟩
  norm_num at twice ⊢
  exact twice

end Network

end WorkerVitals
