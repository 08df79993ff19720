import WorkerVitals.Event
import WorkerVitals.Snapshot.Wire

namespace WorkerVitals

def Snapshot.publish (snapshot : Snapshot) : List Event :=
  [.snapshot (snapshot.workerId.getD "") snapshot.isValid snapshot.anyFailing snapshot.json]

end WorkerVitals
