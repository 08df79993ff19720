namespace WorkerVitals.Json

/-- The text ended too early, it breaks the grammar, or it is well formed up to a value of the
wrong shape. Reading stops at the first problem. -/
inductive Rejection where
  | ended
  | malformed
  | misshapen
  deriving DecidableEq, Repr

end WorkerVitals.Json
