import WorkerVitals.Settings.Options

namespace WorkerVitals.Settings

def programName : String := "worker-telemetry"

def programVersion : String := "0.1.0"

/-- What an option is for. -/
def Opt.purpose : Opt → String
  | .workerId => "name of this worker [default: the name of its host]"
  | .statFile => "file with the byte counters of the interfaces [default: /proc/net/dev]"
  | .interface => "network interface to sample [default: eth0]"
  | .maxBandwidthMbps => "full bandwidth in megabytes per second [default: 125]"
  | .networkInMax => "ceiling for received traffic in percent [default: 100]"
  | .networkOutMax => "ceiling for sent traffic in percent [default: 100]"
  | .idleMillis => "least time between two rounds in milliseconds [default: 1000]"
  | .reducedBelowMillis => "lag below which rounds are slowed down"
  | .behindMillis => "lag behind the end of the stream in milliseconds"
  | .maxSamples => "samples kept of each metric [default: 10]"
  | .maxRounds => "rounds after which the program ends"
  | .jsonLogs => "write log lines as JSON"

/-- The line about an option. -/
def Opt.help (opt : Opt) : String :=
  "      --" ++ opt.name ++ (if opt.takesValue then " <VALUE>" else "") ++ "\n          " ++
    opt.purpose ++ " [env: " ++ opt.variableName ++ "]"

def help : String :=
  "\n".intercalate
    (["Usage: " ++ programName ++ " [OPTIONS]", "", "Options:"] ++ Opt.all.map Opt.help ++
      ["  -h, --help", "  -V, --version"])

/-- What is said about a fault in the arguments, or in answer to a request. -/
def Usage.message : Usage → String
  | .unknownArgument => "error: unexpected argument found"
  | .invalidValue => "error: a value is missing or is none of those possible"
  | .valueValidation => "error: invalid value for an option"
  | .argumentConflict => "error: an option cannot be used multiple times"
  | .tooManyValues => "error: unexpected value for a flag"
  | .displayHelp => help
  | .displayVersion => programName ++ " " ++ programVersion

/-- Whether the message answers a request; otherwise it is a complaint. -/
def Usage.isRequest : Usage → Bool
  | .displayHelp | .displayVersion => true
  | _ => false

end WorkerVitals.Settings
