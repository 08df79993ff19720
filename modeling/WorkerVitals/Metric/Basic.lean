import WorkerVitals.Event
import WorkerVitals.Metric.Ceiling
import WorkerVitals.Metric.Sample

namespace WorkerVitals

/-- What one capture came to and what it logged. There is no outcome when the clock failed and
the capture was given up. -/
structure Capture where
  outcome : Option (Except Fault Sample)
  events : List Event := []

structure Metric (W : Type) where
  kind : Kind
  ceiling : Ceiling
  capture : W → Capture × W

end WorkerVitals
