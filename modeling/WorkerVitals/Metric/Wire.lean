import WorkerVitals.Json.Read
import WorkerVitals.Json.Write
import WorkerVitals.Metric.Ceiling
import WorkerVitals.Metric.Kind
import WorkerVitals.Metric.Sample

namespace WorkerVitals
open Json

def Kind.json (kind : Kind) : String := .ofList (writeString kind.longName)

def Ceiling.json (ceiling : Ceiling) : String :=
  .ofList (writeObject [("max_utilization", writeInt ceiling.max.toInt)])

def Sample.json (sample : Sample) : String :=
  .ofList (writeObject [("value", writeFloat sample.value)])

/-- The kind with a long name; any other name has the wrong shape. -/
def Kind.named (name : String) : Except Rejection Kind :=
  match Kind.ofLongName? name with
  | some kind => .ok kind
  | none => .error .misshapen

def readNull : List Token → Except Rejection (List Token)
  | .null :: rest => .ok rest
  | tokens => .error (mismatch tokens)

def Kind.read : Reader Kind
  | [] => .error .ended
  | .text content :: rest => do return (← Kind.named (← content), rest)
  | .brokenText read _ :: _ => .error read
  | .openObject :: tokens => do
    let (name, tokens) ← readName tokens
    let kind ← Kind.named name
    match ← readNull (← readColon tokens) with
    | [] => .error .ended
    | .closeObject :: rest => return (kind, rest)
    | _ :: _ => .error .malformed
  | _ :: _ => .error .malformed

end WorkerVitals
