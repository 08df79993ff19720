import Std.Async.Signal
import Std.Time.Format
import WorkerVitals.Agent.Basic
import WorkerVitals.Agent.Observation
import WorkerVitals.File.Tree
import WorkerVitals.Log.Filter
import WorkerVitals.Log.Line
import WorkerVitals.Settings.CommandLine
import WorkerVitals.Settings.Help

namespace WorkerVitals.Program

/-- The variables that the program looks at, as far as they are set. -/
def environment : IO Settings.Environment :=
  (Log.Filter.variableName :: Settings.Opt.all.map Settings.Opt.variableName).filterMapM fun name =>
    return (← IO.getEnv name).map fun value => (name, value)

/-- A failure by the number that the host gives it, which may come with a minus sign. -/
def failure (code : UInt32) (details : String) : File.ReadFailure :=
  let number := (min code (0 - code)).toNat
  if number = 20 then .notDirectory
  else if number = 21 then .isDirectory
  else if number = 36 then .nameTooLong
  else .other (details ++ " (os error " ++ .ofList (Text.decimal number) ++ ")")

/-- The content of a file that could not be read. -/
def unread : IO.Error → File.Content
  | .noFileOrDirectory .. => .missing
  | .inappropriateType _ code details | .invalidArgument _ code details
  | .permissionDenied _ code details | .resourceExhausted _ code details
  | .noSuchThing _ code details => .failed (failure code details)
  | error => .failed (.other (toString error))

def readFile (path : String) : IO File.Content := do
  try
    return .ofBytes (← IO.FS.readBinFile path)
  catch error =>
    return unread error

def hostName : IO String := do
  match ← readFile "/proc/sys/kernel/hostname" with
  | .text name => return .ofList (Text.trim name.toList)
  | _ => return "unknown-worker"

def observe (path : String) : IO Observation := do
  let table ← readFile path
  return { table, time := .ofNanos (← IO.monoNanosNow) }

def now : IO Time.Instant := do
  let nanos := (← Std.Time.Timestamp.now).toNanosecondsSinceUnixEpoch.val
  let second : Int := Time.nanosPerSecond
  return (Time.Instant.of? (nanos / second) (nanos % second).toNat).getD .epoch

def timestamp : IO String := do
  let time := Std.Time.DateTime.ofTimestampWithZone (← Std.Time.Timestamp.now) .UTC
  return time.format "uuuu-MM-dd'T'HH:mm:ss.SSSSSS'Z'"

/-- Writes the events that are to be shown to standard output. -/
def report (filter : Log.Filter) (inJson : Bool) (events : List Event) : IO Unit :=
  (events.filter filter.admits).forM fun event => do
    let time ← timestamp
    IO.println (if inJson then event.json time else event.timedLine time)

/-- Waits until the clock shows a time in milliseconds, and looks for an interruption now and
then; says whether there was one. -/
partial def sleepUntil (isInterrupted : BaseIO Bool) (deadline : Nat) : BaseIO Bool := do
  if ← isInterrupted then return true
  let time ← IO.monoMsNow
  if deadline ≤ time then return false
  IO.sleep (min (deadline - time) 20).toUInt32
  sleepUntil isInterrupted deadline

/-- Cycles until one ends the run. -/
partial def poll (report : List Event → IO Unit) (isInterrupted : BaseIO Bool)
    (agent : Agent Observations) : IO UInt32 := do
  let inbound ← observe agent.settings.statFile
  let outbound ← observe agent.settings.statFile
  let surroundings : Observations := { current := inbound, ahead := [inbound, outbound] }
  let turn : Turn := { stamp := ← now, asked := ← now }
  let cycle := { agent with world := { agent.world with surroundings } }.cycle turn
  report cycle.events
  match cycle.next with
  | .finish => return 0
  | .crash => return 1
  | .wait millis =>
    if ← sleepUntil isInterrupted ((← IO.monoMsNow) + millis) then
      report [.interrupted]
      return 0
    else poll report isInterrupted cycle.agent

/-- Starts an agent and polls it until it ends, unless its start fails. -/
def serve (settings : Settings) (filter : Log.Filter) : IO UInt32 := do
  let report := report filter settings.jsonLogs
  match Agent.startUp settings (← hostName) .unseen with
  | .failed message code events =>
    report events
    IO.eprintln message
    return code
  | .polling agent events =>
    let interruption ← (← Std.Async.Signal.Waiter.mk .sigint false).wait
    report events
    poll report (IO.hasFinished interruption) agent

/-- Settings that cannot be read end the program with a message, and with code 2 unless the
message was asked for; a log filter that cannot be cut ends it with code 101. -/
def run (arguments : List String) : IO UInt32 := do
  let environment ← environment
  match Settings.ofArguments arguments environment with
  | .ok settings =>
    match Log.Filter.ofEnvironment environment with
    | some filter => serve settings filter
    | none =>
      IO.eprintln ("\n" ++ Log.Filter.variableName ++ " is cut inside a character")
      return 101
  | .error usage =>
    if usage.isRequest then
      IO.println usage.message
      return 0
    else
      IO.eprintln usage.message
      return 2

end WorkerVitals.Program

def main (arguments : List String) : IO UInt32 :=
  WorkerVitals.Program.run arguments
