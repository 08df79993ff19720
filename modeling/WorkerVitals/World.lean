import WorkerVitals.Network.Probe
import WorkerVitals.Registry

namespace WorkerVitals

/-- What a capture meets: files to read, and a clock. -/
class Surroundings (E : Type) extends Time.Ticker E where
  readFile : String → E → File.Content × E

/-- A metric that gives outcomes fixed in advance, and fails when there is none or none is left. -/
structure Replay where
  kind : Kind
  ceiling : Ceiling
  outcomes : List (Option Float)
  deriving DecidableEq

namespace Replay

/-- The name under which a replay misses its outcomes. -/
def path : String := "scripted"

def capture (replay : Replay) : Capture × Replay :=
  match replay.outcomes with
  | some value :: rest => ({ outcome := some (Sample.of value) }, { replay with outcomes := rest })
  | none :: rest =>
    ({ outcome := some (.error (.tableMissing path)) }, { replay with outcomes := rest })
  | [] => ({ outcome := some (.error (.tableMissing path)) }, replay)

end Replay

/-- A network probe, on the clock of its surroundings or on one of its own, or a replay. -/
inductive Instrument where
  | network (probe : Network.Probe) (ownClock : Option Time.Clock)
  | replay (script : Replay)

namespace Instrument

def kind : Instrument → Kind
  | .network probe _ => probe.kind
  | .replay script => script.kind

def ceiling : Instrument → Ceiling
  | .network probe _ => probe.ceiling
  | .replay script => script.ceiling

variable {E : Type} [Surroundings E]

def capture (surroundings : E) : Instrument → Capture × Instrument × E
  | .network probe none =>
    let (table, surroundings) := Surroundings.readFile probe.config.statFile surroundings
    let (capture, probe, surroundings) := probe.capture table surroundings
    (capture, .network probe none, surroundings)
  | .network probe (some clock) =>
    let (table, surroundings) := Surroundings.readFile probe.config.statFile surroundings
    let (capture, probe, clock) := probe.capture table clock
    (capture, .network probe (some clock), surroundings)
  | .replay script =>
    let (capture, script) := script.capture
    (capture, .replay script, surroundings)

end Instrument

structure World (E : Type) where
  surroundings : E
  instruments : List Instrument := []

namespace World

variable {E : Type} [Surroundings E]

/-- Captures the instrument in a slot; an empty slot gives nothing. -/
def capture (slot : Nat) (world : World E) : Capture × World E :=
  match world.instruments[slot]? with
  | none => ({ outcome := none }, world)
  | some instrument =>
    let (capture, instrument, surroundings) := instrument.capture world.surroundings
    (capture, { surroundings, instruments := world.instruments.set slot instrument })

/-- Puts an instrument in a slot of its own, and gives the metric that captures it there. -/
def install (world : World E) (instrument : Instrument) : Metric (World E) × World E :=
  ({ kind := instrument.kind
     ceiling := instrument.ceiling
     capture := World.capture world.instruments.length },
   { world with instruments := world.instruments ++ [instrument] })

end World

end WorkerVitals
