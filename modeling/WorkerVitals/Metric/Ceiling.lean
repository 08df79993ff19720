import WorkerVitals.Fault

namespace WorkerVitals

structure Ceiling where
  max : Int64
  nonneg : 0 ≤ max
  le_hundred : max ≤ 100
  deriving DecidableEq

/-- A ceiling from 0 to 100; any other number is refused. -/
def Ceiling.of (max : Int64) : Except Fault Ceiling :=
  if within : 0 ≤ max ∧ max ≤ 100 then .ok ⟨max, within.1, within.2⟩
  else .error (.ceilingOutOfRange max)

end WorkerVitals
