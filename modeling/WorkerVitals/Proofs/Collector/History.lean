import WorkerVitals.Proofs.Collector.Session
import WorkerVitals.Proofs.Snapshot.NameMap
import WorkerVitals.World

/-! Histories after a session. The history of a kind is the newest outcomes that the rounds obtained
from its metric, and the snapshots show exactly these histories. -/
namespace WorkerVitals

variable {W : Type}

namespace Collector

theorem of_eq_ok {registry : Registry W} {limit : Nat} {collector : Collector W}
    (made : Collector.of registry limit = .ok collector) :
    collector.registry = registry ∧ collector.limit = limit ∧ collector.history = fun _ => none := by
  unfold Collector.of at made
  split at made
  · cases made
    exact ⟨rfl, rfl, rfl⟩
  · cases made

theorem get?_stats_eq_some_iff (collector : Collector W) {name : String} {samples : List Float} :
    collector.stats.get? name = some samples ↔
      ∃ kind : Kind, name = kind.shortName ∧ collector.history kind = some samples :=
  Kind.get?_ofList_shortNames_eq_some_iff collector.history

theorem get?_stats (collector : Collector W) (kind : Kind) :
    collector.stats.get? kind.shortName = collector.history kind := by
  apply Option.ext
  intro samples
  rw [get?_stats_eq_some_iff]
  constructor
  · rintro ⟨other, same, kept⟩
    rwa [Kind.shortName_injective same]
  · exact fun kept => ⟨kind, rfl, kept⟩

end Collector

theorem length_rtake (values : List Float) (limit : Nat) :
    (values.rtake limit).length = min values.length limit := by
  rw [List.rtake, List.length_drop]
  omega

theorem rtake_rtake (values : List Float) (outer inner : Nat) :
    (values.rtake outer).rtake inner = values.rtake (min inner outer) := by
  simp only [List.rtake_eq_reverse_take_reverse, List.reverse_reverse, List.take_take]

namespace Session

theorem history_fresh {registry : Registry W} {limit : Nat} {start : Session W}
    (fresh : Collector.of registry limit = .ok start.collector) (moves : List (Move W))
    (kind : Kind) :
    (start.run moves).collector.history kind =
      newest? limit (valuesOf kind (start.outcomes moves)) := by
  obtain ⟨_, bound, empty⟩ := Collector.of_eq_ok fresh
  have nothing : start.collector.history kind = newest? start.collector.limit [] := by
    rw [empty]
    rfl
  simpa [bound] using history_run nothing moves

theorem samples_fresh {registry : Registry W} {limit : Nat} {start : Session W}
    (fresh : Collector.of registry limit = .ok start.collector) (moves : List (Move W))
    {kind : Kind} {samples : List Float}
    (kept : (start.run moves).collector.history kind = some samples) :
    samples ≠ [] ∧ samples = (valuesOf kind (start.outcomes moves)).rtake limit ∧
      samples.length = min (valuesOf kind (start.outcomes moves)).length limit := by
  have positive : 0 < limit := (Collector.of_eq_ok fresh).2.1 ▸ start.collector.limit_pos
  rw [history_fresh fresh] at kept
  unfold newest? at kept
  split at kept
  · cases kept
  · rename_i some_value
    cases kept
    refine ⟨fun nothing => some_value ?_, rfl, length_rtake ..⟩
    rw [← List.length_eq_zero_iff, length_rtake] at nothing
    exact List.length_eq_zero_iff.mp (by omega)

/-- Whatever a session does, the history of each kind is the newest outcomes of its rounds, and there
is none before the first of them; a snapshot shows the histories there are, and nothing but a round
changes one. -/
theorem history_eq_newest_outcomes {registry : Registry W} {limit : Nat} {start : Session W}
    (fresh : Collector.of registry limit = .ok start.collector) (moves : List (Move W)) :
    (∀ kind, (start.run moves).collector.history kind =
        if valuesOf kind (start.outcomes moves) = [] then none
        else some ((valuesOf kind (start.outcomes moves)).rtake limit)) ∧
      (∀ kind samples, (start.run moves).collector.history kind = some samples →
        samples ≠ [] ∧
          samples.length = min (valuesOf kind (start.outcomes moves)).length limit) ∧
      (∀ workerId time kind,
        ((start.run moves).collector.snapshot workerId time).metricStats.bind
            (·.get? kind.shortName) =
          if valuesOf kind (start.outcomes moves) = [] then none
          else some ((valuesOf kind (start.outcomes moves)).rtake limit)) ∧
      (∀ workerId time name samples,
        ((start.run moves).collector.snapshot workerId time).metricStats.bind (·.get? name) =
            some samples →
          (∃ kind : Kind, name = kind.shortName) ∧ samples ≠ [] ∧ samples.length ≤ limit) ∧
      ∀ move, move ≠ .round →
        ((start.run moves).step move).collector = (start.run moves).collector := by
  have newest := history_fresh fresh moves
  refine ⟨newest, ?_, ?_, ?_, fun move outside => collector_step _ outside⟩
  · intro kind samples kept
    obtain ⟨nonempty, -, length⟩ := samples_fresh fresh moves kept
    exact ⟨nonempty, length⟩
  · intro workerId time kind
    exact (Collector.get?_stats _ kind).trans (newest kind)
  · intro workerId time name samples found
    obtain ⟨kind, rfl, kept⟩ := (Collector.get?_stats_eq_some_iff _).mp found
    obtain ⟨nonempty, -, length⟩ := samples_fresh fresh moves kept
    exact ⟨⟨kind, rfl⟩, nonempty, length ▸ Nat.min_le_right ..⟩

/-- A session at its start: one metric that replays outcomes, and room for two of them. -/
def replayed (outcomes : List (Option Float)) : Session Replay where
  collector :=
    { registry := (Registry.empty.register
        { kind := .networkIn, ceiling := ⟨80, by decide, by decide⟩, capture := Replay.capture }).1
      limit := 2
      limit_pos := by decide }
  world := { kind := .networkIn, ceiling := ⟨80, by decide, by decide⟩, outcomes }

theorem history_eq_newest_outcomes_replayed :
    let start := replayed [some 10, none, some 30, some 40]
    let moves : List (Move Replay) := [.round, .round, .captureNamed "NI", .publish, .round]
    Collector.of start.collector.registry 2 = .ok start.collector ∧
      (start.run moves).collector.history .networkIn =
        (if valuesOf .networkIn (start.outcomes moves) = [] then none
          else some ((valuesOf .networkIn (start.outcomes moves)).rtake 2)) ∧
      (start.run moves).collector.history .networkIn = some [-1, 40] ∧
      (start.run moves).collector.history .cpu = none := by
  have fresh : Collector.of (replayed [some 10, none, some 30, some 40]).collector.registry 2 =
    .ok (replayed [some 10, none, some 30, some 40]).collector := rfl
  have newest := history_eq_newest_outcomes fresh
    [.round, .round, .captureNamed "NI", .publish, .round]
  exact ⟨fresh, newest.1 .networkIn, by decide, by decide⟩

end Session

end WorkerVitals
