import WorkerVitals.Metric.Kind

namespace WorkerVitals.Network

inductive Direction where
  | received
  | transmitted
  deriving DecidableEq, Repr

def Direction.kind : Direction → Kind
  | .received => .networkIn
  | .transmitted => .networkOut

def Direction.name : Direction → String
  | .received => "Received"
  | .transmitted => "Transmitted"

/-- Bytes moved in each direction. -/
structure Counters where
  received : UInt64
  transmitted : UInt64
  deriving DecidableEq, Repr

namespace Counters

def zero : Counters := ⟨0, 0⟩

def get (counters : Counters) : Direction → UInt64
  | .received => counters.received
  | .transmitted => counters.transmitted

/-- The distance between two counter values, whichever is larger: a counter that was reset went
back. -/
def distance (a b : UInt64) : UInt64 := if a ≤ b then b - a else a - b

/-- The distances in both directions. -/
def between (current previous : Counters) : Counters :=
  ⟨distance current.received previous.received, distance current.transmitted previous.transmitted⟩

end Counters

end WorkerVitals.Network
