import WorkerVitals.Metric.Sample
import WorkerVitals.Snapshot.NameMap

namespace WorkerVitals

structure Snapshot where
  workerId : Option String := none
  /-- Seconds since the epoch. -/
  lastUpdateTime : Option Int64 := none
  /-- The recent samples of each metric by its short name, oldest first. -/
  metricStats : Option (NameMap (List Float)) := none
  /-- The ceiling of each metric by its short name, first in its list. -/
  operatingRange : Option (NameMap (List Int64)) := none
  deriving DecidableEq

namespace Snapshot

/-- Some recorded sample is the mark of a failed capture. -/
def anyFailing (snapshot : Snapshot) : Bool :=
  snapshot.metricStats.any fun stats => stats.values.any fun samples => samples.any (· == failureMark)

/-- The newest sample of some metric is the mark of a failed capture. -/
def latestFailing (snapshot : Snapshot) : Bool :=
  snapshot.metricStats.any fun stats =>
    stats.values.any fun samples => samples.getLast?.any (· == failureMark)

/-- Nothing is reported, so that defaults apply. -/
def usesDefaults (snapshot : Snapshot) : Bool := snapshot.metricStats.all (·.isEmpty)

/-- A list of range numbers whose first one, the ceiling, is positive. -/
def opensPositive (range : List Int64) : Bool := range.head?.any (0 < ·)

/-- A snapshot is valid when it names its worker and its time, and every metric in it has a positive
ceiling. Ceilings without any metric reported are not trusted, unless there are none. -/
def isValid (snapshot : Snapshot) : Bool :=
  snapshot.workerId.any (!·.isEmpty) && snapshot.lastUpdateTime.isSome &&
    match snapshot.metricStats, snapshot.operatingRange with
    | none, none => true
    | none, some ranges => ranges.isEmpty
    | some stats, none => stats.isEmpty
    | some stats, some ranges => stats.keys.all fun name => (ranges.get? name).any opensPositive

/-- The newest sample of the metric with a short name. -/
def latestValue (snapshot : Snapshot) (name : String) : Option Float := do
  (← (← snapshot.metricStats).get? name).getLast?

end Snapshot

end WorkerVitals
