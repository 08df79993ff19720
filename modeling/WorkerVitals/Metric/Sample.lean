import WorkerVitals.Fault

namespace WorkerVitals

structure Sample where
  value : Float
  nonneg : 0 ≤ value
  le_hundred : value ≤ 100
  deriving DecidableEq

/-- A sample from 0 to 100; any other number is refused, and so is one that is not a number. -/
def Sample.of (value : Float) : Except Fault Sample :=
  if within : 0 ≤ value ∧ value ≤ 100 then .ok ⟨value, within.1, within.2⟩
  else .error (.sampleOutOfRange value)

/-- Stands in a history for a capture that failed; no sample has this value. -/
def failureMark : Float := -1

/-- What a history keeps of one capture. -/
def recorded : Except Fault Sample → Float
  | .ok sample => sample.value
  | .error _ => failureMark

end WorkerVitals
