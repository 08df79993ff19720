import WorkerVitals.File.Content
import WorkerVitals.Metric.Basic
import WorkerVitals.Network.Rate
import WorkerVitals.Network.Table
import WorkerVitals.Time.Stopwatch

/-! The metric of one direction of a network interface. A capture reads the counters, takes the
distance to those of the capture before, and divides by the time since that capture. The three
sections of a capture are functions of their own: reading the table, replacing the counters, and
the lap of the stopwatch. -/
namespace WorkerVitals.Network

/-- Where the counters are and what counts as full use. -/
structure Config where
  interface : String := "eth0"
  statFile : String := "/proc/net/dev"
  /-- The default is one gigabit per second. -/
  maxBandwidthMbps : Float := 125
  deriving DecidableEq

/-- A probe remembers the counters and the time of its last capture. -/
structure Probe where
  direction : Direction
  ceiling : Ceiling
  config : Config
  bandwidth_pos : 0 < config.maxBandwidthMbps
  lastCounters : Option Counters := none
  stopwatch : Time.Stopwatch := {}

namespace Probe

/-- A probe that has captured nothing yet. The bandwidth must be positive. -/
def of (direction : Direction) (ceiling : Ceiling) (config : Config) : Except Fault Probe :=
  if positive : 0 < config.maxBandwidthMbps then .ok ⟨direction, ceiling, config, positive, none, {}⟩
  else .error (.bandwidthNotPositive config.maxBandwidthMbps)

def kind (probe : Probe) : Kind := probe.direction.kind

/-- The counters in the table, as it was read. -/
def readCounters (probe : Probe) : File.Content → Except Fault Counters
  | .text characters => Table.counters characters probe.config.interface probe.config.statFile
  | .missing => .error (.tableMissing probe.config.statFile)
  | .failed failure => .error (.tableUnreadable probe.config.statFile failure)

/-- The bytes moved since the last capture, none at the first; the counters are remembered. -/
def replaceCounters (probe : Probe) (current : Counters) : Counters × Probe :=
  let delta := match probe.lastCounters with
    | none => .zero
    | some previous => current.between previous
  (delta, { probe with lastCounters := some current })

/-- The seconds to divide by: one before there is a time to measure, and never zero. -/
def seconds (probe : Probe) : Option Time.Duration → Except Fault Float
  | none => .ok 1
  | some elapsed =>
    if elapsed.nanos = 0 then .error (.noTimeElapsed probe.config.statFile) else .ok elapsed.toFloat

/-- What was measured in so many seconds. -/
def measure (probe : Probe) (delta : Counters) (seconds : Float) : Utilization :=
  let deltaBytes := delta.get probe.direction
  let rate := rateMbps deltaBytes.toFloat seconds
  { interface := probe.config.interface
    direction := probe.direction
    deltaBytes := deltaBytes
    elapsedSecs := seconds
    rateMbps := rate
    percentage := percentageOf rate probe.config.maxBandwidthMbps }

/-- The end of a capture, when the bytes and the time are known. -/
def conclude (probe : Probe) (delta : Counters) (elapsed : Option Time.Duration) : Capture :=
  match probe.seconds elapsed with
  | .error fault => { outcome := some (.error fault) }
  | .ok seconds =>
    let measured := probe.measure delta seconds
    { outcome := some (Sample.of measured.percentage), events := [.utilization measured] }

/-- One capture of a table, with a clock. A table that cannot be read changes nothing; a clock that
fails leaves the counters replaced and the stopwatch as it was. -/
def capture {C : Type} [Time.Ticker C] (probe : Probe) (table : File.Content) (clock : C) :
    Capture × Probe × C :=
  match probe.readCounters table with
  | .error fault => ({ outcome := some (.error fault) }, probe, clock)
  | .ok current =>
    let (delta, probe) := probe.replaceCounters current
    match probe.stopwatch.lap clock with
    | (none, clock) => ({ outcome := none }, probe, clock)
    | (some (elapsed, stopwatch), clock) =>
      (probe.conclude delta elapsed, { probe with stopwatch }, clock)

end Probe

end WorkerVitals.Network
