import WorkerVitals.Proofs.Binary64.Positive
import WorkerVitals.Proofs.Collector.Completed
import WorkerVitals.Proofs.Collector.Validity
import WorkerVitals.Proofs.Snapshot.RoundTrip

namespace WorkerVitals

variable {W : Type}

/-- What may stand in a history: the mark of a failure, or a percentage. -/
def Recordable (x : Float) : Prop := x = -1 ∨ (0 ≤ x ∧ x ≤ 100)

theorem Recordable.isFinite {x : Float} (recordable : Recordable x) : x.isFinite = true := by
  rcases recordable with rfl | ⟨nonneg, bounded⟩
  · decide
  · exact Binary64.isFinite_of_le nonneg bounded (by decide)

theorem Obtained.recordable (obtained : Obtained) : Recordable obtained.value := by
  obtain ⟨kind, outcome⟩ := obtained
  cases outcome with
  | ok sample => exact .inr ⟨sample.nonneg, sample.le_hundred⟩
  | error fault => exact .inl rfl

theorem Collector.entries_ranges (collector : Collector W) :
    collector.ranges.entries = collector.registry.metrics.map fun metric =>
      (metric.kind.shortName, [metric.ceiling.max, 0]) :=
  NameMap.entries_ofList (collector.registry.sorted_metrics _)

/-- A snapshot that shows the ceiling of each registered metric, and of some of these metrics up to
`limit` samples. -/
structure Snapshot.Reports (registry : Registry W) (limit : Nat) (snapshot : Snapshot) : Prop where
  ranged : ∃ ranges ∈ snapshot.operatingRange,
    ranges.entries = registry.metrics.map (fun metric =>
        (metric.kind.shortName, [metric.ceiling.max, 0])) ∧
      ranges.entries.length = registry.size ∧
      ∀ range ∈ ranges.values, ∃ max, range = [max, 0] ∧ 0 ≤ max ∧ max ≤ 100
  sampled : ∃ stats ∈ snapshot.metricStats,
    (∀ name ∈ stats.keys, ∃ ranges ∈ snapshot.operatingRange, name ∈ ranges.keys) ∧
      ∀ samples ∈ stats.values, samples ≠ [] ∧ samples.length ≤ limit ∧
        ∀ x ∈ samples, Recordable x ∧ x.isFinite = true

theorem Collector.ranges_within (collector : Collector W) {range : List Int64}
    (listed : range ∈ collector.ranges.values) :
    ∃ max, range = [max, 0] ∧ 0 ≤ max ∧ max ≤ 100 := by
  rw [NameMap.values, entries_ranges, List.map_map] at listed
  obtain ⟨metric, -, rfl⟩ := List.mem_map.mp listed
  exact ⟨metric.ceiling.max, rfl, metric.ceiling.nonneg, metric.ceiling.le_hundred⟩

/-- Where there is a history there is a range. -/
theorem Collector.keys_stats_subset {collector : Collector W} (registered : collector.Registered)
    {name : String} (shown : name ∈ collector.stats.keys) : name ∈ collector.ranges.keys := by
  obtain ⟨kind, rfl, kept⟩ := (mem_keys_stats_iff collector name).mp shown
  obtain ⟨metric, found⟩ := registered kind kept
  exact (NameMap.mem_keys_iff _ _).mpr ⟨_, by rw [get?_ranges, found]; rfl⟩

theorem Snapshot.Reports.finite {registry : Registry W} {limit : Nat} {snapshot : Snapshot}
    (reports : snapshot.Reports registry limit) : snapshot.allFinite = true := by
  obtain ⟨stats, present, -, lists⟩ := reports.sampled
  rw [Option.mem_def] at present
  simp only [allFinite_eq, present, Option.all_some, List.all_eq_true]
  exact fun samples listed x member => ((lists samples listed).2.2 x member).2

namespace Session

/-- The histories of a session are full of recordable numbers, no longer than its limit. -/
theorem samples_recordable {registry : Registry W} {limit : Nat} {start : Session W}
    (fresh : Collector.of registry limit = .ok start.collector) (moves : List (Move W))
    {kind : Kind} {samples : List Float}
    (kept : (start.run moves).collector.history kind = some samples) :
    samples ≠ [] ∧ samples.length ≤ limit ∧ ∀ x ∈ samples, Recordable x := by
  obtain ⟨nonempty, newest, length⟩ := samples_fresh fresh moves kept
  refine ⟨nonempty, length ▸ Nat.min_le_right .., fun x member => ?_⟩
  rw [newest] at member
  obtain ⟨obtained, -, -, rfl⟩ := mem_valuesOf.mp (List.mem_of_mem_drop member)
  exact obtained.recordable

/-- Whatever a session does, a snapshot of it shows the ceiling of each registered metric, and of
registered metrics only some samples, no more than there is room for, each a percentage or the mark
of a failure. So all its numbers are finite, and its text is read back whenever they are, in
whichever order it lists the metrics. -/
theorem snapshot_reports {registry : Registry W} {limit : Nat} {start : Session W}
    (fresh : Collector.of registry limit = .ok start.collector) (moves : List (Move W))
    (workerId : String) (time : Int64) :
    ((start.run moves).collector.snapshot workerId time).Reports registry limit ∧
      (((start.run moves).collector.snapshot workerId time).Faithful → ∀ walk : Snapshot.Walk,
        Snapshot.ofJson (((start.run moves).collector.snapshot workerId time).jsonIn walk) =
          .ok ((start.run moves).collector.snapshot workerId time)) := by
  have same : (start.run moves).collector.registry = registry :=
    (frame_run start moves).1.trans (Collector.of_eq_ok fresh).1
  have entries := (start.run moves).collector.entries_ranges
  rw [same] at entries
  have reports : ((start.run moves).collector.snapshot workerId time).Reports registry limit := by
    refine ⟨⟨_, rfl, entries, ?_, fun _ => Collector.ranges_within _⟩, ⟨_, rfl, ?_, ?_⟩⟩
    · rw [entries, List.length_map, Registry.size]
    · exact fun name shown => ⟨_, rfl, Collector.keys_stats_subset (registered_run fresh moves) shown⟩
    · intro samples listed
      obtain ⟨name, found⟩ := (NameMap.mem_values_iff _ _).mp listed
      obtain ⟨kind, -, kept⟩ := (Collector.get?_stats_eq_some_iff _).mp found
      obtain ⟨nonempty, bounded, recordable⟩ := samples_recordable fresh moves kept
      exact ⟨nonempty, bounded, fun x member =>
        ⟨recordable x member, (recordable x member).isFinite⟩⟩
  refine ⟨reports, fun faithful walk => ?_⟩
  rw [Snapshot.ofJson_jsonIn faithful, reports.finite]
  rfl

/-- A session at its start: one metric that always fails, one that gives the same sample each time,
and room for two outcomes of each. -/
def noted : Session (List Kind) where
  collector :=
    { registry := (Registry.registerAll
        [Collector.noting .memory ⟨70, by decide, by decide⟩ (.ok ⟨12.5, by decide, by decide⟩),
          Collector.noting .cpu ⟨90, by decide, by decide⟩
            (.error (.tableMissing "/proc/stat"))]).1
      limit := 2
      limit_pos := Nat.zero_lt_two }
  world := []

/-- The two orders give two texts for one snapshot, and either is read as it. -/
theorem snapshot_reports_noted :
    let ended := noted.run [.round, .round, .captureNamed "M", .publish, .round]
    Collector.of noted.collector.registry 2 = .ok noted.collector ∧
      (ended.collector.snapshot "w" 0).Reports noted.collector.registry 2 ∧
      (ended.collector.snapshot "w" 0).samples = [-1, -1, 12.5, 12.5] ∧
      (ended.collector.snapshot "w" 0).jsonIn .reversed ≠
        (ended.collector.snapshot "w" 0).jsonIn .sorted ∧
      Snapshot.ofJson ((ended.collector.snapshot "w" 0).jsonIn .reversed) =
        .ok (ended.collector.snapshot "w" 0) ∧
      Snapshot.ofJson ((ended.collector.snapshot "w" 0).jsonIn .sorted) =
        .ok (ended.collector.snapshot "w" 0) := by
  intro ended
  have fresh : Collector.of noted.collector.registry 2 = .ok noted.collector := rfl
  have faithful : (ended.collector.snapshot "w" 0).Faithful := by decide +kernel
  obtain ⟨reports, reads⟩ :=
    snapshot_reports fresh [.round, .round, .captureNamed "M", .publish, .round] "w" 0
  exact ⟨fresh, reports, by decide +kernel, by decide +kernel, reads faithful .reversed,
    reads faithful .sorted⟩

end Session

end WorkerVitals
