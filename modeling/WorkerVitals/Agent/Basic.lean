import WorkerVitals.Collector
import WorkerVitals.Publisher
import WorkerVitals.Settings.Basic
import WorkerVitals.World

/-! The agent samples its worker in cycles. A cycle captures every metric, publishes a snapshot,
and then either ends the run or waits before the next one. What the surroundings decide is given
to a cycle as its turn; the run over a list of turns is the list of its cycles. -/
namespace WorkerVitals

/-- What a cycle meets besides its surroundings: the time right after its captures, the time at
which it works out its wait, and whether it is interrupted while it waits. -/
structure Turn where
  stamp : Time.Instant
  asked : Time.Instant
  interrupted : Bool := false
  deriving DecidableEq

structure Agent (E : Type) where
  settings : Settings
  workerId : String
  collector : Collector (World E)
  world : World E
  /-- The stamp of the last round in which no capture failed. -/
  lastCall : Option Time.Instant := none
  cycles : Nat := 0

/-- What comes after a cycle. -/
inductive Next where
  | wait (millis : Nat)
  | finish
  | crash
  deriving DecidableEq

/-- A cycle and the agent after it. A cycle that crashed has no round. -/
structure Cycle (E : Type) where
  turn : Turn
  agent : Agent E
  round : Option Round := none
  events : List Event
  next : Next

namespace Agent

variable {E : Type} [Surroundings E]

/-- Puts an agent together that samples both directions of its interface. What was logged until then
is given as well, also when a fault ends it. The settings are checked in this order: the inbound
ceiling, the bandwidth, the outbound ceiling, the length of the history. -/
def assemble (settings : Settings) (hostName : String) (surroundings : E) :
    Except Fault (Agent E) × List Event :=
  match settings.probe .received with
  | .error fault => (.error fault, [])
  | .ok received =>
    let (inMetric, world) := ({ surroundings } : World E).install (.network received none)
    let (registry, inReplaced) := Registry.empty.register inMetric
    match settings.probe .transmitted with
    | .error fault => (.error fault, inReplaced)
    | .ok transmitted =>
      let (outMetric, world) := world.install (.network transmitted none)
      let (registry, outReplaced) := registry.register outMetric
      match Collector.of registry settings.maxSamples.toNat with
      | .error fault => (.error fault, inReplaced ++ outReplaced)
      | .ok collector =>
        let workerId := settings.resolvedWorkerId hostName
        (.ok { settings, workerId, collector, world },
          inReplaced ++ outReplaced ++ [.started workerId settings.interface settings.statFile])

/-- An agent and what it logged until then. -/
def start (settings : Settings) (hostName : String) (surroundings : E) :
    Except Fault (Agent E × List Event) :=
  let (made, events) := assemble settings hostName surroundings
  made.map fun agent => (agent, events)

/-- Whether so many cycles are all that the settings allow. -/
def reachedLimit (settings : Settings) (cycles : Nat) : Bool :=
  settings.maxRounds.any fun limit => limit.toNat ≤ cycles

/-- Milliseconds to wait; a negative wait is none. -/
def wait (agent : Agent E) (asked : Time.Instant) : Nat :=
  ((agent.settings.pacing agent.lastCall).wait asked).toInt.toNat

/-- The warning that goes with a snapshot that may not be acted on. -/
def doubt (workerId : String) (snapshot : Snapshot) : List Event :=
  if snapshot.isValid then [] else [.untrusted workerId]

/-- What follows the cycle just counted, and what is logged of it. -/
def decide (agent : Agent E) (asked : Time.Instant) : Next × List Event :=
  if reachedLimit agent.settings agent.cycles then (.finish, [.limitReached agent.cycles])
  else (.wait (agent.wait asked), [])

/-- A failed capture ends neither the cycle nor the run; a failed clock ends both. -/
def cycle (agent : Agent E) (turn : Turn) : Cycle E :=
  let ended := agent.collector.captureAll agent.world
  let agent := { agent with collector := ended.collector, world := ended.world }
  match ended.round with
  | none => { turn, agent, events := ended.events, next := .crash }
  | some round =>
    let snapshot := agent.collector.snapshot agent.workerId turn.stamp.epochSeconds
    let lastCall := if round.isClean then some turn.stamp else agent.lastCall
    let agent := { agent with lastCall, cycles := agent.cycles + 1 }
    let (next, closing) := agent.decide turn.asked
    { turn, agent, round := some round, next
      events := ended.events ++ doubt agent.workerId snapshot ++ snapshot.publish ++ closing }

end Agent

/-- How a run ends; it is still `running` when its turns are used up. -/
inductive Ending where
  | finished
  | interrupted
  | crashed
  | running
  deriving DecidableEq

structure Run (E : Type) where
  cycles : List (Cycle E) := []
  ending : Ending

/-- All that a run logs, in order. -/
def Run.events {E : Type} (run : Run E) : List Event :=
  run.cycles.flatMap Cycle.events ++ if run.ending = .interrupted then [.interrupted] else []

namespace Agent

variable {E : Type} [Surroundings E]

/-- One cycle for each turn, up to the first that ends the run. -/
def run (agent : Agent E) : List Turn → Run E
  | [] => { ending := .running }
  | turn :: rest =>
    let cycle := agent.cycle turn
    match cycle.next with
    | .finish => { cycles := [cycle], ending := .finished }
    | .crash => { cycles := [cycle], ending := .crashed }
    | .wait _ =>
      if turn.interrupted then { cycles := [cycle], ending := .interrupted }
      else
        let later := cycle.agent.run rest
        { later with cycles := cycle :: later.cycles }

end Agent

/-- What the program comes to before its first cycle: a failure, which is told of with a message and
ends it with a code, or an agent that is to be polled. Either comes with what was logged. -/
inductive Startup (E : Type) where
  | failed (message : String) (code : UInt32) (events : List Event)
  | polling (agent : Agent E) (events : List Event)

/-- A configuration error ends the program before anything is sampled. -/
def Agent.startUp {E : Type} [Surroundings E] (settings : Settings) (hostName : String)
    (surroundings : E) : Startup E :=
  match assemble settings hostName surroundings with
  | (.error fault, events) => .failed ("Error: " ++ fault.message) 1 events
  | (.ok agent, events) => .polling agent events

end WorkerVitals
