import WorkerVitals.Proofs.Collector.Failing

/-! When a snapshot of a collector is valid. A history is only ever kept of a registered kind, and
there is a range for each of them, so that the verdict hangs on the worker and on the ceilings of
what was recorded, never on what the captures came to. -/
namespace WorkerVitals

variable {W : Type}

theorem Ceiling.pos_iff (ceiling : Ceiling) : 0 < ceiling.max ↔ ceiling.max ≠ 0 := by
  have nonneg := Int64.le_iff_toInt_le.mp ceiling.nonneg
  rw [Int64.lt_iff_toInt_lt, ne_eq, ← Int64.toInt_inj]
  rw [Int64.toInt_zero] at nonneg ⊢
  omega

namespace Collector

theorem get?_ranges (collector : Collector W) (kind : Kind) :
    collector.ranges.get? kind.shortName =
      (collector.registry.get? kind).map fun metric => [metric.ceiling.max, 0] :=
  collector.registry.get?_ofList_metrics _ kind

theorem mem_keys_stats_iff (collector : Collector W) (name : String) :
    name ∈ collector.stats.keys ↔
      ∃ kind : Kind, name = kind.shortName ∧ collector.history kind ≠ none := by
  simp only [NameMap.mem_keys_iff, get?_stats_eq_some_iff, Option.ne_none_iff_exists']
  constructor
  · rintro ⟨samples, kind, named, kept⟩
    exact ⟨kind, named, samples, kept⟩
  · rintro ⟨kind, named, samples, kept⟩
    exact ⟨samples, kind, named, kept⟩

/-- Histories are kept of registered kinds only. -/
def Registered (collector : Collector W) : Prop :=
  ∀ kind, collector.history kind ≠ none → ∃ metric, collector.registry.get? kind = some metric

/-- With a history of registered kinds only, what counts is the name of the worker and the ceilings
of what was recorded. -/
theorem isValid_snapshot {collector : Collector W} (registered : collector.Registered)
    (workerId : String) (time : Int64) :
    (collector.snapshot workerId time).isValid = true ↔
      workerId ≠ "" ∧ ∀ kind metric, collector.registry.get? kind = some metric →
        collector.history kind ≠ none → 0 < metric.ceiling.max := by
  have covered : (collector.snapshot workerId time).isValid =
      (!workerId.isEmpty && collector.stats.keys.all fun name =>
        (collector.ranges.get? name).any Snapshot.opensPositive) := by
    simp [Snapshot.isValid, snapshot]
  have named : (!workerId.isEmpty) = true ↔ workerId ≠ "" := by simp
  rw [covered, Bool.and_eq_true, named, List.all_eq_true]
  refine and_congr_right fun _ => ⟨?_, ?_⟩
  · intro positive kind metric found kept
    have opens := positive kind.shortName
      ((mem_keys_stats_iff collector _).mpr ⟨kind, rfl, kept⟩)
    simpa [get?_ranges, found, Snapshot.opensPositive] using opens
  · intro positive name member
    obtain ⟨kind, rfl, kept⟩ := (mem_keys_stats_iff collector name).mp member
    obtain ⟨metric, found⟩ := registered kind kept
    simpa [get?_ranges, found, Snapshot.opensPositive] using positive kind metric found kept

end Collector

theorem mem_obtainedFrom {metrics : List (Metric W)} {world : W} {obtained : Obtained}
    (member : obtained ∈ obtainedFrom metrics world) :
    ∃ metric ∈ metrics, metric.kind = obtained.1 := by
  induction metrics generalizing world with
  | nil => cases member
  | cons metric rest ih =>
    unfold obtainedFrom at member
    split at member
    · cases member
    · rcases List.mem_cons.mp member with rfl | later
      · exact ⟨metric, List.mem_cons_self, rfl⟩
      · obtain ⟨other, present, same⟩ := ih later
        exact ⟨other, List.mem_cons_of_mem _ present, same⟩

namespace Session

/-- The rounds of a session have recorded an outcome of a kind. -/
def Recorded (session : Session W) (moves : List (Move W)) (kind : Kind) : Prop :=
  ∃ obtained ∈ session.outcomes moves, obtained.1 = kind

theorem Recorded.registered {session : Session W} {moves : List (Move W)} {kind : Kind}
    (recorded : session.Recorded moves kind) :
    ∃ metric, session.collector.registry.get? kind = some metric := by
  obtain ⟨obtained, member, rfl⟩ := recorded
  obtain ⟨start, round, present⟩ := List.mem_flatMap.mp member
  obtain ⟨metric, there, same⟩ := mem_obtainedFrom present
  rw [← same, ← registry_roundStarts round]
  exact ⟨metric, (Registry.mem_metrics_iff _ metric).mp there⟩

theorem history_ne_none_iff {registry : Registry W} {limit : Nat} {start : Session W}
    (fresh : Collector.of registry limit = .ok start.collector) (moves : List (Move W))
    (kind : Kind) :
    (start.run moves).collector.history kind ≠ none ↔ start.Recorded moves kind := by
  simp [history_fresh fresh, valuesOf, Recorded]

theorem registered_run {registry : Registry W} {limit : Nat} {start : Session W}
    (fresh : Collector.of registry limit = .ok start.collector) (moves : List (Move W)) :
    (start.run moves).collector.Registered := by
  intro kind kept
  rw [(frame_run start moves).1]
  exact ((history_ne_none_iff fresh moves kind).mp kept).registered

theorem history_unregistered {registry : Registry W} {limit : Nat} {start : Session W}
    (fresh : Collector.of registry limit = .ok start.collector) (moves : List (Move W)) {kind : Kind}
    (absent : registry.get? kind = none) : (start.run moves).collector.history kind = none := by
  by_contra kept
  obtain ⟨metric, found⟩ := registered_run fresh moves kind kept
  rw [(frame_run start moves).1, (Collector.of_eq_ok fresh).1, absent] at found
  cases found

/-- A completed round has recorded an outcome of each registered kind. -/
theorem recorded_of_completed {session : Session W} {moves : List (Move W)} {round : Round}
    (completed : some round ∈ session.rounds moves) {kind : Kind} {metric : Metric W}
    (found : session.collector.registry.get? kind = some metric) :
    session.Recorded moves kind := by
  obtain ⟨start, member, returned⟩ := List.mem_map.mp completed
  have kinds := (round_captureAll returned).1
  rw [registry_roundStarts member] at kinds
  obtain rfl := session.collector.registry.placed kind metric found
  have obtained : metric.kind ∈ start.obtained.map Prod.fst :=
    kinds ▸ List.mem_map_of_mem ((Registry.mem_metrics_iff _ metric).mpr found)
  obtain ⟨outcome, there, same⟩ := List.mem_map.mp obtained
  exact ⟨outcome, List.mem_flatMap.mpr ⟨start, member, there⟩, same⟩

theorem isValid_run_iff {registry : Registry W} {limit : Nat} {start : Session W}
    (fresh : Collector.of registry limit = .ok start.collector) (moves : List (Move W))
    (workerId : String) (time : Int64) :
    ((start.run moves).collector.snapshot workerId time).isValid = true ↔
      workerId ≠ "" ∧ ∀ kind metric, registry.get? kind = some metric →
        start.Recorded moves kind → 0 < metric.ceiling.max := by
  have same : (start.run moves).collector.registry = registry :=
    (frame_run start moves).1.trans (Collector.of_eq_ok fresh).1
  simp only [Collector.isValid_snapshot (registered_run fresh moves), history_ne_none_iff fresh, same]

/-- Whatever a session does, a snapshot of it is valid exactly when the worker has a name and what
was recorded is of metrics with positive ceilings. So every named snapshot is valid before anything
was recorded; from the first completed round on no registered ceiling may be zero; and what the
captures came to makes no difference. -/
theorem isValid_iff_recorded_positive {registry : Registry W} {limit : Nat} {start : Session W}
    (fresh : Collector.of registry limit = .ok start.collector) (moves : List (Move W))
    (workerId : String) (time : Int64) :
    (((start.run moves).collector.snapshot workerId time).isValid = true ↔
        workerId ≠ "" ∧ ∀ kind metric, registry.get? kind = some metric →
          start.Recorded moves kind → 0 < metric.ceiling.max) ∧
      (start.outcomes moves = [] →
        (((start.run moves).collector.snapshot workerId time).isValid = true ↔ workerId ≠ "")) ∧
      (∀ round, some round ∈ start.rounds moves →
        (((start.run moves).collector.snapshot workerId time).isValid = true ↔
          workerId ≠ "" ∧ ∀ kind metric, registry.get? kind = some metric →
            metric.ceiling.max ≠ 0)) ∧
      ∀ (other : Session W) (room : Nat) (others : List (Move W)) (later : Int64),
        Collector.of registry room = .ok other.collector →
        (∀ kind, other.Recorded others kind ↔ start.Recorded moves kind) →
        ((other.run others).collector.snapshot workerId later).isValid =
          ((start.run moves).collector.snapshot workerId time).isValid := by
  have valid := isValid_run_iff fresh moves workerId time
  refine ⟨valid, ?_, ?_, ?_⟩
  · intro nothing
    have unrecorded (kind : Kind) : ¬start.Recorded moves kind := by
      rintro ⟨obtained, member, -⟩
      rw [nothing] at member
      cases member
    simp [valid, unrecorded]
  · intro round completed
    rw [valid]
    refine and_congr_right fun _ => forall_congr' fun kind => forall_congr' fun metric =>
      forall_congr' fun found => ?_
    have recorded : start.Recorded moves kind :=
      recorded_of_completed completed ((Collector.of_eq_ok fresh).1 ▸ found)
    rw [← metric.ceiling.pos_iff]
    exact ⟨fun positive => positive recorded, fun positive _ => positive⟩
  · intro other room others later made same
    rw [Bool.eq_iff_iff, valid, isValid_run_iff made others workerId later]
    simp only [same]

/-- A session at its start: one metric with some ceiling, that replays one failure. -/
def failingUnder (ceiling : Ceiling) : Session Replay where
  collector :=
    { (replayed [none]).collector with
      registry := (Registry.empty.register
        { kind := .networkIn, ceiling, capture := Replay.capture }).1 }
  world := { kind := .networkIn, ceiling, outcomes := [none] }

/-- With a ceiling of zero the first round costs a session its validity, though what it records is a
failure. -/
theorem isValid_iff_recorded_positive_zero :
    let start := failingUnder ⟨0, by decide, by decide⟩
    Collector.of start.collector.registry 2 = .ok start.collector ∧
      ((start.run [.publish]).collector.snapshot "w" 0).isValid = true ∧
      ((start.run [.publish, .round]).collector.snapshot "w" 0).isValid = false := by
  intro start
  have fresh : Collector.of start.collector.registry 2 = .ok start.collector := rfl
  obtain ⟨-, before, -⟩ := isValid_iff_recorded_positive fresh [.publish] "w" 0
  obtain ⟨after, -⟩ := isValid_iff_recorded_positive fresh [.publish, .round] "w" 0
  refine ⟨fresh, (before rfl).mpr (by decide), Bool.eq_false_iff.mpr ?_⟩
  intro valid
  have recorded : start.Recorded [.publish, .round] .networkIn :=
    ⟨_, List.mem_singleton.mpr rfl, rfl⟩
  exact absurd ((after.mp valid).2 .networkIn _ rfl recorded) (by decide)

end Session

end WorkerVitals
