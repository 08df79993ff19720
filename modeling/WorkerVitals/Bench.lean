import WorkerVitals.Collector
import WorkerVitals.File.Tree
import WorkerVitals.Publisher
import WorkerVitals.World

/-! A bench on which metrics are tried out: files and a clock under control, metrics by name that
may also be registered, a collector, and stopwatches on the same clock. -/
namespace WorkerVitals

/-- Files and a clock that change only when told to. -/
structure Sandbox where
  files : File.Tree := {}
  clock : Time.Clock := {}

instance : Surroundings Sandbox where
  read sandbox :=
    let (reading, clock) := sandbox.clock.read
    (reading, { sandbox with clock })
  readFile path sandbox := (sandbox.files.read path, sandbox)

structure Bench where
  world : World Sandbox := { surroundings := {} }
  metrics : List (String × Metric (World Sandbox)) := []
  registry : Registry (World Sandbox) := .empty
  collector : Option (Collector (World Sandbox)) := none
  lastSnapshot : Snapshot := {}
  stopwatches : List (String × Time.Stopwatch) := []

/-- What can be done on a bench. -/
inductive Action where
  | write (path : String) (content : File.Content)
  | makeDirectory (path : String)
  | remove (path : String)
  | setClock (now : Time.Duration)
  | advance (time : Time.Duration)
  | setStep (step : Time.Duration)
  | failClock (after : Nat)
  | showClock
  /-- A network metric, on a steady clock of its own if wanted. -/
  | network (name : String) (direction : Network.Direction) (max : Int64) (config : Network.Config)
      (ownClock : Bool)
  | replay (name : String) (kind : Kind) (max : Int64) (outcomes : List (Option Float))
  | capture (name : String)
  | captureMany (name : String) (times : Nat)
  | register (name : String)
  | showRegistry
  | find (kind : Kind)
  | findByShortName (shortName : String)
  /-- Moves the registered metrics into a new collector. -/
  | collect (limit : Nat)
  | captureAll
  | captureThroughCollector (shortName : String)
  | snapshot (workerId : String) (time : Int64)
  | publish
  | stopwatch (name : String)
  | restart (name : String)
  | elapsed (name : String)

/-- What an action comes to. -/
inductive Answer where
  | done
  | refused (fault : Fault)
  | clockFailed
  | unknownName (name : String)
  | clock (now : Time.Duration)
  | metric (metric : Metric (World Sandbox)) (direction : Option Network.Direction)
  | sample (sample : Sample)
  | answers (each : List Answer)
  | registry (registry : Registry (World Sandbox))
  | round (round : Round)
  | snapshot (snapshot : Snapshot)
  | published (events : List Event)
  | running (isRunning : Bool)
  | elapsed (isRunning : Bool) (time : Option Time.Duration)

/-- The end of an action: its answer, what it logged, and the bench after it. -/
structure ActionEnd where
  answer : Answer
  events : List Event := []
  bench : Bench

def Answer.ofCapture (capture : Capture) : Answer :=
  match capture.outcome with
  | none => .clockFailed
  | some (.ok value) => .sample value
  | some (.error fault) => .refused fault

namespace Bench

def sandbox (bench : Bench) : Sandbox := bench.world.surroundings

def setFiles (bench : Bench) (change : File.Tree → File.Tree) : Bench :=
  { bench with world.surroundings.files := change bench.sandbox.files }

def setClock (bench : Bench) (change : Time.Clock → Time.Clock) : Bench :=
  { bench with world.surroundings.clock := change bench.sandbox.clock }

/-- Puts a new instrument under a name; the one that had the name lives on where it is
registered. -/
def install (bench : Bench) (name : String) (direction : Option Network.Direction)
    (built : Except Fault Instrument) : ActionEnd :=
  match built with
  | .error fault => { answer := .refused fault, bench }
  | .ok instrument =>
    let (metric, world) := bench.world.install instrument
    { answer := .metric metric direction
      bench := { bench with world, metrics := (name, metric) :: bench.metrics } }

def capture (bench : Bench) (metric : Metric (World Sandbox)) : ActionEnd :=
  let (capture, world) := metric.capture bench.world
  { answer := .ofCapture capture, events := capture.events, bench := { bench with world } }

/-- So many captures of a metric, one after the other; what they log is not kept. -/
def captureMany (bench : Bench) (metric : Metric (World Sandbox)) : Nat → List Answer × Bench
  | 0 => ([], bench)
  | times + 1 =>
    let first := bench.capture metric
    let (answers, bench) := first.bench.captureMany metric times
    (first.answer :: answers, bench)

/-- Does something with the metric that has a name. -/
def withMetric (bench : Bench) (name : String) (act : Metric (World Sandbox) → ActionEnd) :
    ActionEnd :=
  match bench.metrics.lookup name with
  | some metric => act metric
  | none => { answer := .unknownName name, bench }

def withCollector (bench : Bench) (act : Collector (World Sandbox) → ActionEnd) : ActionEnd :=
  match bench.collector with
  | some collector => act collector
  | none => { answer := .unknownName "", bench }

def withStopwatch (bench : Bench) (name : String) (act : Time.Stopwatch → ActionEnd) : ActionEnd :=
  match bench.stopwatches.lookup name with
  | some stopwatch => act stopwatch
  | none => { answer := .unknownName name, bench }

def showMetric (bench : Bench) (found : Option (Metric (World Sandbox))) : ActionEnd :=
  match found with
  | some metric => { answer := .metric metric none, bench }
  | none => { answer := .done, bench }

def perform (bench : Bench) : Action → ActionEnd
  | .write path content => { answer := .done, bench := bench.setFiles (·.write path content) }
  | .makeDirectory path => { answer := .done, bench := bench.setFiles (·.makeDirectory path) }
  | .remove path => { answer := .done, bench := bench.setFiles (·.remove path) }
  | .setClock now => { answer := .done, bench := bench.setClock ({ · with now }) }
  | .advance time =>
    { answer := .done
      bench := bench.setClock fun clock => { clock with now := clock.now.add time } }
  | .setStep step => { answer := .done, bench := bench.setClock ({ · with step }) }
  | .failClock after =>
    { answer := .done, bench := bench.setClock ({ · with failsAfter := some after }) }
  | .showClock => { answer := .clock bench.sandbox.clock.now, bench }
  | .network name direction max config ownClock =>
    bench.install name (some direction) do
      let ceiling ← Ceiling.of max
      let probe ← Network.Probe.of direction ceiling config
      return .network probe (if ownClock then some .steady else none)
  | .replay name kind max outcomes =>
    bench.install name none do
      let ceiling ← Ceiling.of max
      return .replay { kind, ceiling, outcomes }
  | .capture name => bench.withMetric name bench.capture
  | .captureMany name times =>
    bench.withMetric name fun metric =>
      let (answers, bench) := bench.captureMany metric times
      { answer := .answers answers, bench }
  | .register name =>
    bench.withMetric name fun metric =>
      let (registry, events) := bench.registry.register metric
      { answer := .registry registry, events, bench := { bench with registry } }
  | .showRegistry => { answer := .registry bench.registry, bench }
  | .find kind => bench.showMetric (bench.registry.get? kind)
  | .findByShortName shortName => bench.showMetric (bench.registry.getByShortName? shortName)
  | .collect limit =>
    let rest := { bench with registry := .empty }
    match Collector.of bench.registry limit with
    | .error fault => { answer := .refused fault, bench := rest }
    | .ok collector =>
      { answer := .registry collector.registry, bench := { rest with collector := some collector } }
  | .captureAll =>
    bench.withCollector fun collector =>
      let finished := collector.captureAll bench.world
      { answer := match finished.round with
          | some round => .round round
          | none => .clockFailed
        events := finished.events
        bench :=
          { bench with world := finished.world, collector := some finished.collector } }
  | .captureThroughCollector shortName =>
    bench.withCollector fun collector =>
      match collector.registry.getByShortName? shortName with
      | some metric => bench.capture metric
      | none => { answer := .done, bench }
  | .snapshot workerId time =>
    bench.withCollector fun collector =>
      let snapshot := collector.snapshot workerId time
      { answer := .snapshot snapshot, bench := { bench with lastSnapshot := snapshot } }
  | .publish => { answer := .published bench.lastSnapshot.publish, bench }
  | .stopwatch name =>
    { answer := .done, bench := { bench with stopwatches := (name, {}) :: bench.stopwatches } }
  | .restart name =>
    bench.withStopwatch name fun stopwatch =>
      match stopwatch.restart bench.sandbox.clock with
      | (none, clock) => { answer := .clockFailed, bench := bench.setClock fun _ => clock }
      | (some stopwatch, clock) =>
        let bench := bench.setClock fun _ => clock
        { answer := .running stopwatch.isRunning
          bench := { bench with stopwatches := (name, stopwatch) :: bench.stopwatches } }
  | .elapsed name =>
    bench.withStopwatch name fun stopwatch =>
      match stopwatch.elapsed bench.sandbox.clock with
      | (none, clock) => { answer := .clockFailed, bench := bench.setClock fun _ => clock }
      | (some time, clock) =>
        { answer := .elapsed stopwatch.isRunning time, bench := bench.setClock fun _ => clock }

end Bench

end WorkerVitals
