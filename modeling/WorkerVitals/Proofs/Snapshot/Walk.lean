import WorkerVitals.Proofs.Snapshot.RoundTrip
import WorkerVitals.Publisher

namespace WorkerVitals.Snapshot
open Json

namespace Walk

theorem lookup_stats (walk : Walk) (map : NameMap (List Float)) (name : String) :
    (walk.stats map.entries).lookup name = map.get? name :=
  lookup_perm map.nodup_names (walk.stats_perm _) name

theorem lookup_ranges (walk : Walk) (map : NameMap (List Int64)) (name : String) :
    (walk.ranges map.entries).lookup name = map.get? name :=
  lookup_perm map.nodup_names (walk.ranges_perm _) name

end Walk

section Judgements

variable (walk : Walk) (snapshot : Snapshot)

def anyFailingIn : Bool :=
  snapshot.metricStats.any fun stats =>
    (walk.stats stats.entries).any fun entry => entry.2.any (· == failureMark)

def latestFailingIn : Bool :=
  snapshot.metricStats.any fun stats =>
    (walk.stats stats.entries).any fun entry => entry.2.getLast?.any (· == failureMark)

def usesDefaultsIn : Bool :=
  snapshot.metricStats.all fun stats => (walk.stats stats.entries).isEmpty

def isValidIn : Bool :=
  snapshot.workerId.any (!·.isEmpty) && snapshot.lastUpdateTime.isSome &&
    match snapshot.metricStats, snapshot.operatingRange with
    | none, none => true
    | none, some ranges => (walk.ranges ranges.entries).isEmpty
    | some stats, none => (walk.stats stats.entries).isEmpty
    | some stats, some ranges => (walk.stats stats.entries).all fun entry =>
      ((walk.ranges ranges.entries).lookup entry.1).any opensPositive

def latestValueIn (name : String) : Option Float := do
  (← (walk.stats (← snapshot.metricStats).entries).lookup name).getLast?

@[simp] theorem anyFailingIn_eq : snapshot.anyFailingIn walk = snapshot.anyFailing := by
  unfold anyFailingIn anyFailing
  congr 1
  funext stats
  rw [(walk.stats_perm _).any_eq, NameMap.values, List.any_map]
  rfl

@[simp] theorem latestFailingIn_eq : snapshot.latestFailingIn walk = snapshot.latestFailing := by
  unfold latestFailingIn latestFailing
  congr 1
  funext stats
  rw [(walk.stats_perm _).any_eq, NameMap.values, List.any_map]
  rfl

@[simp] theorem usesDefaultsIn_eq : snapshot.usesDefaultsIn walk = snapshot.usesDefaults := by
  unfold usesDefaultsIn usesDefaults
  congr 1
  funext stats
  exact (walk.stats_perm _).isEmpty_eq

@[simp] theorem isValidIn_eq : snapshot.isValidIn walk = snapshot.isValid := by
  unfold isValidIn isValid
  cases snapshot.metricStats with
  | none =>
    cases snapshot.operatingRange with
    | none => rfl
    | some ranges => exact congrArg _ (walk.ranges_perm _).isEmpty_eq
  | some stats =>
    cases snapshot.operatingRange with
    | none => exact congrArg _ (walk.stats_perm _).isEmpty_eq
    | some ranges =>
      simp only [(walk.stats_perm _).all_eq, walk.lookup_ranges, NameMap.keys, List.all_map]
      rfl

@[simp] theorem latestValueIn_eq (name : String) :
    snapshot.latestValueIn walk name = snapshot.latestValue name := by
  unfold latestValueIn latestValue
  simp only [walk.lookup_stats]

end Judgements

/-- The event of a publisher that walks the maps in some order. -/
def publishIn (walk : Walk) (snapshot : Snapshot) : List Event :=
  [.snapshot (snapshot.workerId.getD "") (snapshot.isValidIn walk) (snapshot.anyFailingIn walk)
    (snapshot.jsonIn walk)]

theorem publishIn_sorted (snapshot : Snapshot) : snapshot.publishIn .sorted = snapshot.publish := by
  unfold publishIn publish
  rw [isValidIn_eq, anyFailingIn_eq]
  rfl

section Texts

variable {snapshot : Snapshot} (faithful : snapshot.Faithful)
include faithful

/-- A snapshot with finite samples is published by one event, and whoever reads its text comes to the
judgements that the event tells and that its publisher had, and finds the same newest samples. This is
so in whichever orders the two of them walk over the maps. -/
theorem publish_agrees (finite : ∀ x ∈ snapshot.samples, x.isFinite = true) :
    (∀ walk : Walk, ∃ event text, snapshot.publishIn walk = [event] ∧ event.level = .info ∧
        event.fields.lookup "snapshot" = some (.words text) ∧
        ∃ read, ofJson text = .ok read ∧
          event.fields.lookup "valid" = some (.bool read.isValid) ∧
          event.fields.lookup "failing" = some (.bool read.anyFailing) ∧
          event.fields.lookup "worker_id" = some (.string (read.workerId.getD "")) ∧
          read.latestFailing = snapshot.latestFailing ∧
          read.usesDefaults = snapshot.usesDefaults ∧
          ∀ name, read.latestValue name = snapshot.latestValue name) ∧
      snapshot.publishIn .sorted = snapshot.publish ∧
      ∀ (walk : Walk) (judged : Snapshot), judged.isValidIn walk = judged.isValid ∧
        judged.anyFailingIn walk = judged.anyFailing ∧
        judged.latestFailingIn walk = judged.latestFailing ∧
        judged.usesDefaultsIn walk = judged.usesDefaults ∧
        ∀ name, judged.latestValueIn walk name = judged.latestValue name := by
  refine ⟨fun walk => ?_, publishIn_sorted snapshot, fun walk judged => ?_⟩
  · have read := ofJson_jsonIn_of_finite faithful finite walk
    refine ⟨_, snapshot.jsonIn walk, rfl, rfl, rfl, snapshot, read, ?_⟩
    rw [isValidIn_eq, anyFailingIn_eq]
    exact ⟨rfl, rfl, rfl, rfl, rfl, fun _ => rfl⟩
  · exact ⟨isValidIn_eq walk judged, anyFailingIn_eq walk judged, latestFailingIn_eq walk judged,
      usesDefaultsIn_eq walk judged, latestValueIn_eq walk judged⟩

end Texts

/-- A snapshot with two metrics, of which only one has failed last, and with ceilings for both. -/
def halfFailing : Snapshot where
  workerId := some "w"
  lastUpdateTime := some 1700000000
  metricStats := some (.ofList [("NI", [12.5, -1]), ("NO", [-1, 100])])
  operatingRange := some (.ofList [("NI", [80, 0]), ("NO", [90, 0])])

/-- The texts for the two orders differ, and are read as one snapshot. -/
theorem publish_agrees_halfFailing :
    halfFailing.Faithful ∧ (∀ x ∈ halfFailing.samples, x.isFinite = true) ∧
      halfFailing.jsonIn .reversed ≠ halfFailing.jsonIn .sorted ∧
      ∃ read, ofJson (halfFailing.jsonIn .reversed) = .ok read ∧ read.isValid = true ∧
        read.anyFailing = true ∧ read.latestFailing = true ∧ read.latestValue "NO" = some 100 := by
  have faithful : halfFailing.Faithful := by decide +kernel
  have finite : ∀ x ∈ halfFailing.samples, x.isFinite = true := by decide +kernel
  obtain ⟨agrees, -, -⟩ := publish_agrees faithful finite
  obtain ⟨event, text, published, -, shown, read, given, valid, failing, -, latest, -, values⟩ :=
    agrees .reversed
  obtain rfl := (List.singleton_inj.mp published).symm
  obtain rfl : text = halfFailing.jsonIn .reversed :=
    (FieldValue.words.inj (Option.some.inj shown)).symm
  refine ⟨faithful, finite, by decide +kernel, read, given, ?_, ?_, ?_, ?_⟩
  · rw [← FieldValue.bool.inj (Option.some.inj valid)]
    decide +kernel
  · rw [← FieldValue.bool.inj (Option.some.inj failing)]
    decide +kernel
  · rw [latest]
    decide +kernel
  · rw [values]
    decide +kernel

end WorkerVitals.Snapshot
