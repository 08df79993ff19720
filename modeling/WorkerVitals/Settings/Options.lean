import WorkerVitals.Decimal.Read
import WorkerVitals.Settings.Basic

namespace WorkerVitals.Settings

/-- Why settings are not read: a fault in them, or a request for something else. -/
inductive Usage where
  | unknownArgument
  /-- A value is missing, or is none of those possible. -/
  | invalidValue
  | valueValidation
  | argumentConflict
  | tooManyValues
  | displayHelp
  | displayVersion
  deriving DecidableEq, Repr

/-- The options in the order in which the environment is looked at. -/
inductive Opt where
  | workerId
  | statFile
  | interface
  | maxBandwidthMbps
  | networkInMax
  | networkOutMax
  | idleMillis
  | reducedBelowMillis
  | behindMillis
  | maxSamples
  | maxRounds
  | jsonLogs
  deriving DecidableEq, Repr

namespace Opt

def all : List Opt :=
  [.workerId, .statFile, .interface, .maxBandwidthMbps, .networkInMax, .networkOutMax, .idleMillis,
   .reducedBelowMillis, .behindMillis, .maxSamples, .maxRounds, .jsonLogs]

theorem mem_all (opt : Opt) : opt ∈ all := by cases opt <;> decide

/-- The name on the command line, after two dashes. -/
def name : Opt → String
  | .workerId => "worker-id"
  | .statFile => "stat-file"
  | .interface => "interface"
  | .maxBandwidthMbps => "max-bandwidth-mbps"
  | .networkInMax => "network-in-max-utilization"
  | .networkOutMax => "network-out-max-utilization"
  | .idleMillis => "idle-millis-between-calls"
  | .reducedBelowMillis => "millis-behind-latest-threshold-for-reduced-tps"
  | .behindMillis => "millis-behind-latest"
  | .maxSamples => "max-samples-per-metric"
  | .maxRounds => "max-iterations"
  | .jsonLogs => "json-logs"

def variableName : Opt → String
  | .workerId => "WORKER_TELEMETRY_WORKER_ID"
  | .statFile => "WORKER_TELEMETRY_STAT_FILE"
  | .interface => "WORKER_TELEMETRY_INTERFACE"
  | .maxBandwidthMbps => "WORKER_TELEMETRY_MAX_BANDWIDTH_MBPS"
  | .networkInMax => "WORKER_TELEMETRY_NETWORK_IN_MAX_UTILIZATION"
  | .networkOutMax => "WORKER_TELEMETRY_NETWORK_OUT_MAX_UTILIZATION"
  | .idleMillis => "WORKER_TELEMETRY_IDLE_MILLIS_BETWEEN_CALLS"
  | .reducedBelowMillis => "WORKER_TELEMETRY_MILLIS_BEHIND_LATEST_THRESHOLD"
  | .behindMillis => "WORKER_TELEMETRY_MILLIS_BEHIND_LATEST"
  | .maxSamples => "WORKER_TELEMETRY_MAX_SAMPLES_PER_METRIC"
  | .maxRounds => "WORKER_TELEMETRY_MAX_ITERATIONS"
  | .jsonLogs => "WORKER_TELEMETRY_JSON_LOGS"

/-- Whether the option stands with a value on the command line. -/
def takesValue (opt : Opt) : Bool := opt ≠ .jsonLogs

def ofName? (name : String) : Option Opt := all.find? fun opt => opt.name == name

end Opt

/-- What was given for each option. -/
structure Given where
  workerId : Option String := none
  statFile : Option String := none
  interface : Option String := none
  maxBandwidthMbps : Option Float := none
  networkInMax : Option Int64 := none
  networkOutMax : Option Int64 := none
  idleMillis : Option Int64 := none
  reducedBelowMillis : Option Int64 := none
  behindMillis : Option Int64 := none
  maxSamples : Option UInt64 := none
  maxRounds : Option UInt64 := none
  jsonLogs : Option Bool := none
  deriving DecidableEq

namespace Given

def has (given : Given) : Opt → Bool
  | .workerId => given.workerId.isSome
  | .statFile => given.statFile.isSome
  | .interface => given.interface.isSome
  | .maxBandwidthMbps => given.maxBandwidthMbps.isSome
  | .networkInMax => given.networkInMax.isSome
  | .networkOutMax => given.networkOutMax.isSome
  | .idleMillis => given.idleMillis.isSome
  | .reducedBelowMillis => given.reducedBelowMillis.isSome
  | .behindMillis => given.behindMillis.isSome
  | .maxSamples => given.maxSamples.isSome
  | .maxRounds => given.maxRounds.isSome
  | .jsonLogs => given.jsonLogs.isSome

/-- A value, or the fault of a text that is none. -/
def parsed (read : List Char → Option α) (text : String) : Except Usage α :=
  match read text.toList with
  | some value => .ok value
  | none => .error .valueValidation

def bool (text : String) : Except Usage Bool :=
  if text = "true" then .ok true else if text = "false" then .ok false else .error .invalidValue

/-- Reads the text of a value and keeps the value. Any text names a worker or an interface, any
but the empty one a file. -/
def supply (given : Given) (opt : Opt) (text : String) : Except Usage Given :=
  match opt with
  | .workerId => .ok { given with workerId := some text }
  | .statFile =>
    if text.isEmpty then .error .invalidValue else .ok { given with statFile := some text }
  | .interface => .ok { given with interface := some text }
  | .maxBandwidthMbps => do
    return { given with maxBandwidthMbps := some (← parsed Decimal.float? text) }
  | .networkInMax => do return { given with networkInMax := some (← parsed Text.signed? text) }
  | .networkOutMax => do return { given with networkOutMax := some (← parsed Text.signed? text) }
  | .idleMillis => do return { given with idleMillis := some (← parsed Text.signed? text) }
  | .reducedBelowMillis => do
    return { given with reducedBelowMillis := some (← parsed Text.signed? text) }
  | .behindMillis => do return { given with behindMillis := some (← parsed Text.signed? text) }
  | .maxSamples => do return { given with maxSamples := some (← parsed Text.word? text) }
  | .maxRounds => do return { given with maxRounds := some (← parsed Text.word? text) }
  | .jsonLogs => do return { given with jsonLogs := some (← bool text) }

/-- The settings: what was given, and the defaults for the rest. -/
def settings (given : Given) : Settings :=
  let defaults : Settings := {}
  { workerId := given.workerId
    statFile := given.statFile.getD defaults.statFile
    interface := given.interface.getD defaults.interface
    maxBandwidthMbps := given.maxBandwidthMbps.getD defaults.maxBandwidthMbps
    networkInMax := given.networkInMax.getD defaults.networkInMax
    networkOutMax := given.networkOutMax.getD defaults.networkOutMax
    idleMillis := given.idleMillis.getD defaults.idleMillis
    reducedBelowMillis := given.reducedBelowMillis
    behindMillis := given.behindMillis
    maxSamples := given.maxSamples.getD defaults.maxSamples
    maxRounds := given.maxRounds
    jsonLogs := given.jsonLogs.getD defaults.jsonLogs }

end Given

end WorkerVitals.Settings
