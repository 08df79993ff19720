namespace WorkerVitals

inductive Kind where
  | cpu
  | memory
  | networkIn
  | networkOut
  deriving DecidableEq, Repr

namespace Kind

/-- Every kind once, in the order in which a worker reports them. -/
def all : List Kind := [.cpu, .memory, .networkIn, .networkOut]

theorem mem_all (kind : Kind) : kind ∈ all := by cases kind <;> decide

def shortName : Kind → String
  | .cpu => "C"
  | .memory => "M"
  | .networkIn => "NI"
  | .networkOut => "NO"

def longName : Kind → String
  | .cpu => "CPU"
  | .memory => "MEMORY"
  | .networkIn => "NETWORK_IN"
  | .networkOut => "NETWORK_OUT"

def ofShortName? (name : String) : Option Kind := all.find? fun kind => kind.shortName == name

def ofLongName? (name : String) : Option Kind := all.find? fun kind => kind.longName == name

end Kind

end WorkerVitals
