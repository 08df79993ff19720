import WorkerVitals.Decimal.Layout
import WorkerVitals.File.Content

namespace WorkerVitals

inductive Fault where
  | ceilingOutOfRange (max : Int64)
  | bandwidthNotPositive (mbps : Float)
  | sampleOutOfRange (value : Float)
  | tableMissing (path : String)
  | tableUnreadable (path : String) (failure : File.ReadFailure)
  | interfaceNotFound (interface path : String)
  | fieldUnreadable (path field raw : String)
  | noTimeElapsed (path : String)
  | historyTooShort
  deriving DecidableEq, Repr

def Fault.message : Fault → String
  | .ceilingOutOfRange max =>
    "invalid maxUtilization " ++ .ofList (Text.decimalInt max.toInt) ++ ": must be within 0..=100"
  | .bandwidthNotPositive mbps =>
    "max bandwidth must be greater than 0 MBps, got " ++ Decimal.text .message mbps
  | .sampleOutOfRange value =>
    "metric value " ++ Decimal.text .message value ++ " is outside 0..=100"
  | .tableMissing path =>
    "network metric is not configured properly, file " ++ path ++ " does not exist"
  | .tableUnreadable path failure => "failed to read " ++ path ++ ": " ++ failure.message
  | .interfaceNotFound interface path => "failed to find interface " ++ interface ++ " in " ++ path
  | .fieldUnreadable path field raw => "failed to parse " ++ field ++ " from " ++ path ++ ": " ++ raw
  | .noTimeElapsed path => "elapsed time since last read of " ++ path ++ " is zero"
  | .historyTooShort => "sample history length must be at least 1"

end WorkerVitals
