import WorkerVitals.Fault
import WorkerVitals.Network.Counters

namespace WorkerVitals

/-- How loud an event is, the loudest first. -/
inductive Level where
  | error
  | warn
  | info
  | debug
  | trace
  deriving DecidableEq, Repr

/-- One measurement of the use of a network interface. -/
structure Utilization where
  interface : String
  direction : Network.Direction
  deltaBytes : UInt64
  elapsedSecs : Float
  rateMbps : Float
  percentage : Float
  deriving DecidableEq

inductive Event where
  | utilization (measured : Utilization)
  | captureFailed (kind : Kind) (fault : Fault)
  | replaced (kind : Kind)
  | snapshot (workerId : String) (valid failing : Bool) (text : String)
  | started (workerId interface statFile : String)
  | untrusted (workerId : String)
  | limitReached (rounds : Nat)
  | interrupted
  deriving DecidableEq

/-- The value of a field: bare words, a string that log lines put in quotes, or a scalar. -/
inductive FieldValue where
  | words (text : String)
  | string (text : String)
  | bool (b : Bool)
  | count (n : Nat)
  | float (x : Float)
  deriving DecidableEq

namespace Event

def level : Event → Level
  | .utilization _ => .debug
  | .captureFailed .. | .replaced _ | .untrusted _ => .warn
  | .snapshot .. | .started .. | .limitReached _ | .interrupted => .info

/-- The part of the program that an event comes from. -/
def source : Event → String
  | .utilization _ => "worker_telemetry::metric::linux_network"
  | .captureFailed .. => "worker_telemetry::manager"
  | .replaced _ => "worker_telemetry::metric::registry"
  | .snapshot .. => "worker_telemetry::publisher"
  | .started .. | .untrusted _ | .limitReached _ | .interrupted => "worker_telemetry"

def message : Event → String
  | .utilization _ => "network utilization captured"
  | .captureFailed .. => "worker metric capture failed"
  | .replaced _ => "replaced previously registered worker metric"
  | .snapshot .. => "worker metrics snapshot"
  | .started .. => "starting worker telemetry loop"
  | .untrusted _ => "snapshot is not valid for rebalancing"
  | .limitReached _ => "reached configured iteration limit"
  | .interrupted => "shutdown signal received"

/-- The fields in the order in which log lines show them. -/
def fields : Event → List (String × FieldValue)
  | .utilization measured =>
    [("interface", .words measured.interface), ("direction", .words measured.direction.name),
     ("delta_bytes", .count measured.deltaBytes.toNat), ("elapsed_secs", .float measured.elapsedSecs),
     ("rate_mbps", .float measured.rateMbps), ("percentage", .float measured.percentage)]
  | .captureFailed kind fault =>
    [("metric", .words kind.longName), ("error", .words fault.message)]
  | .replaced kind => [("metric", .words kind.longName)]
  | .snapshot workerId valid failing text =>
    [("worker_id", .string workerId), ("valid", .bool valid), ("failing", .bool failing),
     ("snapshot", .words text)]
  | .started workerId interface statFile =>
    [("worker_id", .words workerId), ("interface", .words interface), ("stat_file", .words statFile)]
  | .untrusted workerId => [("worker_id", .words workerId)]
  | .limitReached rounds => [("iterations", .count rounds)]
  | .interrupted => []

end Event

end WorkerVitals
