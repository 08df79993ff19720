import WorkerVitals.Registry
import WorkerVitals.Snapshot.Basic

/-! Rounds of captures. A collector samples every registered metric once per round and keeps the
newest outcomes of each kind; a capture that fails is recorded with a mark and stops nothing. -/
namespace WorkerVitals

/-- What is kept of each kind, oldest first; there is no entry of a kind never captured. -/
abbrev History := Kind → Option (List Float)

/-- Appends a number to a list of at most `limit`, dropping the oldest one when it is full. -/
def pushBounded (limit : Nat) (samples : List Float) (value : Float) : List Float :=
  (if samples.length = limit then samples.drop 1 else samples) ++ [value]

def History.record (history : History) (limit : Nat) (kind : Kind) (value : Float) : History :=
  fun other =>
    if other = kind then some (pushBounded limit ((history kind).getD []) value) else history other

/-- What one round of captures came to. -/
structure Round where
  values : List (Kind × Float) := []
  failures : Nat := 0
  deriving DecidableEq

def Round.isClean (round : Round) : Bool := round.failures = 0

def Round.add (round : Round) (kind : Kind) (outcome : Except Fault Sample) : Round where
  values := round.values ++ [(kind, recorded outcome)]
  failures := match outcome with
    | .ok _ => round.failures
    | .error _ => round.failures + 1

/-- The warning for a capture that failed. -/
def failureEvents (kind : Kind) : Except Fault Sample → List Event
  | .ok _ => []
  | .error fault => [.captureFailed kind fault]

/-- A round under way: the world, what is kept so far, and what was logged. -/
structure Progress (W : Type) where
  world : W
  history : History
  round : Round := {}
  events : List Event := []

namespace Progress

variable {W : Type}

/-- Captures one metric. The second part is false when the clock failed under it; then nothing is
recorded of it, but what it did to the world stays done. -/
def capture (limit : Nat) (progress : Progress W) (metric : Metric W) : Progress W × Bool :=
  let (capture, world) := metric.capture progress.world
  match capture.outcome with
  | none => ({ progress with world, events := progress.events ++ capture.events }, false)
  | some outcome =>
    ({ world
       history := progress.history.record limit metric.kind (recorded outcome)
       round := progress.round.add metric.kind outcome
       events := progress.events ++ capture.events ++ failureEvents metric.kind outcome }, true)

/-- Captures metrics in turn, up to the first under which the clock fails. -/
def captureEach (limit : Nat) (progress : Progress W) : List (Metric W) → Progress W × Bool
  | [] => (progress, true)
  | metric :: rest =>
    match progress.capture limit metric with
    | (progress, true) => progress.captureEach limit rest
    | (progress, false) => (progress, false)

end Progress

structure Collector (W : Type) where
  registry : Registry W
  limit : Nat
  limit_pos : 0 < limit
  history : History := fun _ => none

namespace Collector

variable {W : Type}

/-- A collector with nothing recorded. The history must have room for one sample. -/
def of (registry : Registry W) (limit : Nat) : Except Fault (Collector W) :=
  if positive : 0 < limit then .ok { registry, limit, limit_pos := positive }
  else .error .historyTooShort

/-- The end of a round: its outcome unless the clock failed, the collector and the world after it,
and what was logged. -/
structure RoundEnd (W : Type) where
  round : Option Round
  collector : Collector W
  world : W
  events : List Event

/-- Captures every registered metric once, in the order of the kinds. -/
def captureAll (collector : Collector W) (world : W) : RoundEnd W :=
  let (progress, completed) :=
    ({ world, history := collector.history } : Progress W).captureEach collector.limit
      collector.registry.metrics
  { round := if completed then some progress.round else none
    collector := { collector with history := progress.history }
    world := progress.world
    events := progress.events }

def stats (collector : Collector W) : NameMap (List Float) :=
  .ofList (Kind.all.filterMap fun kind =>
    (collector.history kind).map fun samples => (kind.shortName, samples))

/-- The ceiling of each registered metric, with a second number that is reserved. -/
def ranges (collector : Collector W) : NameMap (List Int64) :=
  .ofList (collector.registry.metrics.map fun metric =>
    (metric.kind.shortName, [metric.ceiling.max, 0]))

def snapshot (collector : Collector W) (workerId : String) (time : Int64) : Snapshot where
  workerId := some workerId
  lastUpdateTime := some time
  metricStats := some collector.stats
  operatingRange := some collector.ranges

end Collector

end WorkerVitals
