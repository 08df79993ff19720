namespace WorkerVitals.Network

section
variable {α : Type} [Div α] [Mul α] [LE α] [DecidableLE α] [OfNat α 100] [OfNat α 1048576]

/-- Megabytes per second. -/
def rateMbps (bytes seconds : α) : α := bytes / 1048576 / seconds

/-- A rate in percent of a bandwidth. It is at most 100, and 100 too when it is no number. -/
def percentageOf (rate bandwidth : α) : α :=
  let percentage := rate / bandwidth * 100
  if percentage ≤ 100 then percentage else 100

end

end WorkerVitals.Network
