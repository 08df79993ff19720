import WorkerVitals.World

namespace WorkerVitals

/-- What one capture sees: its table, and a clock that stands still until the next capture. -/
structure Observation where
  table : File.Content
  time : Time.Duration
  deriving DecidableEq

/-- The observation in use and those to come. The last one stays in use. -/
structure Observations where
  current : Observation
  ahead : List Observation := []
  deriving DecidableEq

/-- Nothing was seen yet. -/
def Observations.unseen : Observations := { current := { table := .missing, time := .zero } }

/-- Each read of a file goes on to the next observation. -/
def Observations.readFile (observed : Observations) : File.Content × Observations :=
  match observed.ahead with
  | [] => (observed.current.table, observed)
  | next :: rest => (next.table, { current := next, ahead := rest })

instance : Surroundings Observations where
  read observed := (some observed.current.time, observed)
  readFile _ := Observations.readFile

end WorkerVitals
