import Mathlib
import WorkerVitals.Proofs.Snapshot.NameMap
import WorkerVitals.Snapshot.Basic

/-! What the questions about failing metrics have to do with each other. Each of them goes through
the samples in its own way, but all can be told from the samples of each name: some sample is the
mark of a failure, some newest sample is, or there is no sample to ask for. -/
namespace WorkerVitals

/-- The mark is equal to itself alone: it is a number, and not a zero, of which there are two. -/
theorem beq_failureMark_iff (value : Float) : (value == failureMark) = true ↔ value = failureMark := by
  have number : failureMark ≠ .nan := by decide
  have nonzero : failureMark ≠ 0 ∧ failureMark ≠ -0 := by decide
  rw [Float.beq_iff_ne_nan_and_eq]
  constructor
  · rintro ⟨-, -, same | ⟨-, zero⟩ | ⟨-, zero⟩⟩
    · exact same
    · exact absurd zero nonzero.2
    · exact absurd zero nonzero.1
  · rintro rfl
    exact ⟨number, number, .inl rfl⟩

private theorem mem_iff_newest_of_rdrop {α : Type} {value : α} {values : List α} :
    value ∈ values ↔ ∃ count, (values.rdrop count).getLast? = some value := by
  constructor
  · intro member
    obtain ⟨earlier, later, rfl⟩ := List.mem_iff_append.mp member
    have kept : (earlier ++ value :: later).rdrop later.length = earlier ++ [value] := by
      rw [List.append_cons, List.rdrop, List.length_append, Nat.add_sub_cancel, List.take_left]
    exact ⟨later.length, by rw [kept, List.getLast?_concat]⟩
  · rintro ⟨count, newest⟩
    exact List.mem_of_mem_take (List.mem_of_getLast? newest)

namespace Snapshot

def samples? (snapshot : Snapshot) (name : String) : Option (List Float) :=
  snapshot.metricStats.bind fun stats => stats.get? name

/-- The snapshot with these samples for the metric with a name, instead of any it had. -/
def withSamples (snapshot : Snapshot) (name : String) (samples : List Float) : Snapshot :=
  { snapshot with metricStats := some ((snapshot.metricStats.getD .empty).insert name samples) }

/-- The snapshot with one more sample of the metric with a name. A metric that is not listed yet
starts with it. -/
def append (snapshot : Snapshot) (name : String) (value : Float) : Snapshot :=
  snapshot.withSamples name ((snapshot.samples? name).getD [] ++ [value])

/-- The same metrics with the same samples, each list in any order. -/
def Reordered (snapshot other : Snapshot) : Prop :=
  ∀ name, Option.Rel List.Perm (snapshot.samples? name) (other.samples? name)

@[simp] theorem samples?_withSamples (snapshot : Snapshot) (name other : String)
    (samples : List Float) : (snapshot.withSamples name samples).samples? other =
      if other = name then some samples else snapshot.samples? other := by
  cases stats : snapshot.metricStats <;> simp [samples?, withSamples, stats]

theorem latestValue_eq (snapshot : Snapshot) (name : String) :
    snapshot.latestValue name = (snapshot.samples? name).bind List.getLast? := by
  cases stats : snapshot.metricStats <;> simp [latestValue, samples?, stats]

theorem latestValue_withSamples (snapshot : Snapshot) (name other : String)
    (samples : List Float) : (snapshot.withSamples name samples).latestValue other =
      if other = name then samples.getLast? else snapshot.latestValue other := by
  rw [latestValue_eq, samples?_withSamples, latestValue_eq]
  split <;> rfl

theorem reordered_withSamples {snapshot : Snapshot} {name : String} {samples others : List Float}
    (listed : snapshot.samples? name = some samples) (same : samples.Perm others) :
    Reordered snapshot (snapshot.withSamples name others) := by
  intro other
  rw [samples?_withSamples]
  split
  · rename_i here
    rw [here, listed]
    exact .some same
  · cases snapshot.samples? other with
    | none => exact .none
    | some samples => exact .some (.refl samples)

/-- A question about some list of samples is one about the samples of some name. -/
theorem exists_samples_iff (snapshot : Snapshot) (shows : List Float → Bool) :
    snapshot.metricStats.any (fun stats => stats.values.any shows) = true ↔
      ∃ name samples, snapshot.samples? name = some samples ∧ shows samples = true := by
  cases stats : snapshot.metricStats with
  | none => simp [samples?, stats]
  | some stats =>
    simp only [samples?, stats, Option.any_some, List.any_eq_true, NameMap.mem_values_iff,
      Option.bind_some]
    constructor
    · rintro ⟨samples, ⟨name, found⟩, shown⟩
      exact ⟨name, samples, found, shown⟩
    · rintro ⟨name, samples, found, shown⟩
      exact ⟨samples, ⟨name, found⟩, shown⟩

theorem anyFailing_iff (snapshot : Snapshot) : snapshot.anyFailing = true ↔
    ∃ name samples, snapshot.samples? name = some samples ∧ failureMark ∈ samples := by
  unfold anyFailing
  rw [exists_samples_iff]
  simp only [List.any_eq_true, beq_failureMark_iff, exists_eq_right]

theorem latestFailing_iff (snapshot : Snapshot) : snapshot.latestFailing = true ↔
    ∃ name, snapshot.latestValue name = some failureMark := by
  unfold latestFailing
  rw [exists_samples_iff]
  simp only [latestValue_eq, Option.any_eq_true, beq_failureMark_iff, exists_eq_right,
    Option.bind_eq_some_iff]

theorem samples?_of_usesDefaults {snapshot : Snapshot} (defaults : snapshot.usesDefaults = true)
    (name : String) : snapshot.samples? name = none := by
  cases present : snapshot.metricStats with
  | none => simp [samples?, present]
  | some stats =>
    have empty : stats.entries = [] := by
      simpa [usesDefaults, NameMap.isEmpty, present] using defaults
    simp [samples?, present, NameMap.get?, empty]

theorem anyFailing_of_latestValue {snapshot : Snapshot} {name : String}
    (newest : snapshot.latestValue name = some failureMark) : snapshot.anyFailing = true := by
  rw [latestValue_eq] at newest
  obtain ⟨samples, listed, last⟩ := Option.bind_eq_some_iff.mp newest
  exact (anyFailing_iff _).mpr ⟨name, samples, listed, List.mem_of_getLast? last⟩

/-- The order of the samples does not count for a failure among them. -/
theorem Reordered.anyFailing_eq {snapshot other : Snapshot} (reordered : Reordered snapshot other) :
    other.anyFailing = snapshot.anyFailing := by
  rw [Bool.eq_iff_iff, anyFailing_iff, anyFailing_iff]
  refine exists_congr fun name => ?_
  have same := reordered name
  generalize snapshot.samples? name = samples at same ⊢
  generalize other.samples? name = others at same ⊢
  cases same with
  | none => simp
  | some same => simp [same.mem_iff]

/-- A failure among the samples is the latest one of some name after newer samples are dropped. -/
theorem anyFailing_iff_latestFailing_rdrop (snapshot : Snapshot) : snapshot.anyFailing = true ↔
    ∃ name samples count, snapshot.samples? name = some samples ∧
      (snapshot.withSamples name (samples.rdrop count)).latestFailing = true := by
  constructor
  · intro failing
    obtain ⟨name, samples, listed, marked⟩ := (anyFailing_iff _).mp failing
    obtain ⟨count, newest⟩ := mem_iff_newest_of_rdrop.mp marked
    refine ⟨name, samples, count, listed, (latestFailing_iff _).mpr ⟨name, ?_⟩⟩
    rw [latestValue_withSamples, if_pos rfl, newest]
  · rintro ⟨name, samples, count, listed, failing⟩
    obtain ⟨other, newest⟩ := (latestFailing_iff _).mp failing
    rw [latestValue_withSamples] at newest
    split at newest
    · exact (anyFailing_iff _).mpr
        ⟨name, samples, listed, mem_iff_newest_of_rdrop.mpr ⟨count, newest⟩⟩
    · exact anyFailing_of_latestValue newest

/-- The questions about failing metrics agree, whatever the maps and the samples are. The latest
samples fail when the value of some name is the mark; then some sample fails, in whatever order the
samples are, and that is to say that the latest samples would fail with newer ones of one metric
dropped. A sample that is appended becomes the latest of its own metric alone. Where defaults apply
nothing fails, and no name has a value. -/
theorem failing_agrees_with_latest (snapshot : Snapshot) :
    (snapshot.latestFailing = true ↔ ∃ name, snapshot.latestValue name = some (-1)) ∧
      (snapshot.latestFailing = true → snapshot.anyFailing = true) ∧
      (∀ other, Reordered snapshot other → other.anyFailing = snapshot.anyFailing) ∧
      (snapshot.anyFailing = true ↔
        ∃ name samples count, snapshot.samples? name = some samples ∧
          (snapshot.withSamples name (samples.rdrop count)).latestFailing = true) ∧
      (∀ name value, (snapshot.append name value).latestValue name = some value ∧
        ∀ other, other ≠ name →
          (snapshot.append name value).latestValue other = snapshot.latestValue other) ∧
      (snapshot.usesDefaults = true → snapshot.anyFailing = false ∧ snapshot.latestFailing = false ∧
        ∀ name, snapshot.latestValue name = none) := by
  have implied : snapshot.latestFailing = true → snapshot.anyFailing = true := by
    intro failing
    obtain ⟨name, newest⟩ := (latestFailing_iff _).mp failing
    exact anyFailing_of_latestValue newest
  refine ⟨latestFailing_iff snapshot, implied, fun other => Reordered.anyFailing_eq,
    anyFailing_iff_latestFailing_rdrop snapshot, fun name value => ⟨?_, ?_⟩, ?_⟩
  · rw [append, latestValue_withSamples, if_pos rfl, List.getLast?_concat]
  · intro other different
    rw [append, latestValue_withSamples, if_neg different]
  · intro defaults
    have unlisted := samples?_of_usesDefaults defaults
    have quiet : snapshot.anyFailing = false := by
      rw [Bool.eq_false_iff, ne_eq, anyFailing_iff]
      simp [unlisted]
    refine ⟨quiet, ?_, fun name => by rw [latestValue_eq, unlisted, Option.bind_none]⟩
    rw [Bool.eq_false_iff]
    intro failing
    exact absurd (implied failing) (Bool.eq_false_iff.mp quiet)

/-- A metric that failed before its latest sample, which is not a number, one that failed last, and
one without samples. -/
def mixed : Snapshot where
  metricStats := some (.ofList [("C", [-1, .nan]), ("M", [20, -1]), ("NI", [])])

theorem failing_agrees_with_latest_mixed :
    let turned := mixed.withSamples "C" [.nan, -1]
    mixed.latestFailing = true ∧ mixed.anyFailing = true ∧
      Reordered mixed turned ∧ turned.anyFailing = true ∧
      (mixed.append "M" 5).latestValue "M" = some 5 ∧ "NI" ≠ "M" ∧
      (mixed.append "M" 5).latestValue "NI" = mixed.latestValue "NI" ∧
      ({} : Snapshot).usesDefaults = true ∧ ({} : Snapshot).latestValue "C" = none := by
  intro turned
  obtain ⟨latest, implied, unordered, -, appended, -⟩ := failing_agrees_with_latest mixed
  obtain ⟨-, -, -, -, -, defaults⟩ := failing_agrees_with_latest {}
  have failing : mixed.latestFailing = true := latest.mpr ⟨"M", by decide +kernel⟩
  have listed : mixed.samples? "C" = some [-1, .nan] := by decide +kernel
  have reordered : Reordered mixed turned := reordered_withSamples listed (.swap Float.nan _ [])
  have different : "NI" ≠ "M" := by decide
  have any := implied failing
  exact ⟨failing, any, reordered, (unordered turned reordered).trans any, (appended "M" 5).1,
    different, (appended "M" 5).2 "NI" different, rfl, (defaults rfl).2.2 "C"⟩

end Snapshot

end WorkerVitals
