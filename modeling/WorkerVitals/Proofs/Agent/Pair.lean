import WorkerVitals.Agent.Basic
import WorkerVitals.Proofs.Collector.Round
import WorkerVitals.Proofs.Network.Capture

namespace WorkerVitals

variable {E : Type} [Surroundings E]

/-- The two probes of an agent, and what the next capture meets. -/
structure Pair (E : Type) where
  received : Network.Probe
  transmitted : Network.Probe
  surroundings : E

namespace Pair

/-- A capture of the table that the surroundings show. -/
def look (probe : Network.Probe) (surroundings : E) : Capture × Network.Probe × E :=
  let (table, surroundings) := Surroundings.readFile probe.config.statFile surroundings
  probe.capture table surroundings

def inbound (pair : Pair E) : Capture × Network.Probe × E :=
  look pair.received pair.surroundings

def outbound (pair : Pair E) : Capture × Network.Probe × E :=
  look pair.transmitted pair.inbound.2.2

/-- The pair after a capture of each. -/
def next (pair : Pair E) : Pair E :=
  { received := pair.inbound.2.1
    transmitted := pair.outbound.2.1
    surroundings := pair.outbound.2.2 }

def after (pair : Pair E) : Nat → Pair E
  | 0 => pair
  | rounds + 1 => (pair.after rounds).next

/-- What the first captures of one side come to, in order. -/
def outcomes (side : Pair E → Capture × Network.Probe × E) (pair : Pair E) (rounds : Nat) :
    List (Option (Except Fault Sample)) :=
  (List.range rounds).map fun round => (side (pair.after round)).1.outcome

theorem outcomes_succ (side : Pair E → Capture × Network.Probe × E) (pair : Pair E)
    (rounds : Nat) :
    outcomes side pair (rounds + 1) =
      outcomes side pair rounds ++ [(side (pair.after rounds)).1.outcome] := by
  simp [outcomes, List.range_succ]

/-- The world of an agent: both probes on the clock of the surroundings. -/
def world (pair : Pair E) : World E where
  surroundings := pair.surroundings
  instruments := [.network pair.received none, .network pair.transmitted none]

def metric (slot : Nat) (probe : Network.Probe) : Metric (World E) where
  kind := probe.kind
  ceiling := probe.ceiling
  capture := World.capture slot

/-- The metrics of both probes. -/
def metrics (pair : Pair E) : List (Metric (World E)) :=
  [metric 0 pair.received, metric 1 pair.transmitted]

/-- A registry of the first metric, and one of both; either with what was logged for it. -/
def registerFirst (pair : Pair E) : Registry (World E) × List Event :=
  Registry.empty.register (metric 0 pair.received)

def registerBoth (pair : Pair E) : Registry (World E) × List Event :=
  pair.registerFirst.1.register (metric 1 pair.transmitted)

/-- Neither metric takes the place of the other, and they stand in the order of their kinds. -/
theorem register_distinct {pair : Pair E} (received : pair.received.kind = .networkIn)
    (transmitted : pair.transmitted.kind = .networkOut) :
    pair.registerFirst.2 = [] ∧ pair.registerBoth.2 = [] ∧
      pair.registerBoth.1.metrics = pair.metrics := by
  have inbound : (metric 0 pair.received : Metric (World E)).kind = .networkIn := received
  have outbound : (metric 1 pair.transmitted : Metric (World E)).kind = .networkOut := transmitted
  simp [registerBoth, registerFirst, Registry.metrics, Registry.get?, Registry.register,
    Registry.empty, Kind.all, inbound, outbound, metrics]

theorem capture_first (pair : Pair E) (probe : Network.Probe) :
    (metric 0 probe).capture pair.world = (pair.inbound.1,
      { surroundings := pair.inbound.2.2
        instruments := [.network pair.inbound.2.1 none, .network pair.transmitted none] }) := rfl

theorem capture_second (pair : Pair E) (probe received : Network.Probe) :
    (metric 1 probe).capture
        { surroundings := pair.inbound.2.2
          instruments := [.network received none, .network pair.transmitted none] } =
      (pair.outbound.1,
        { surroundings := pair.outbound.2.2
          instruments := [.network received none, .network pair.outbound.2.1 none] }) := rfl

theorem answered
    (reliable : ∀ surroundings : E, ∃ now, (Time.Ticker.read surroundings).1 = some now)
    (pair : Pair E) : ∃ received transmitted, pair.inbound.1.outcome = some received ∧
      pair.outbound.1.outcome = some transmitted := by
  obtain ⟨received, inbound⟩ := Network.Probe.capture_answered reliable pair.received _ _
  obtain ⟨transmitted, outbound⟩ := Network.Probe.capture_answered reliable pair.transmitted _ _
  exact ⟨received, transmitted, inbound, outbound⟩

/-- A round captures the probes in turn and records what each capture comes to. -/
theorem captureAll_world (pair made : Pair E) {collector : Collector (World E)}
    (registered : collector.registry.metrics = made.metrics)
    {received transmitted : Except Fault Sample}
    (inbound : pair.inbound.1.outcome = some received)
    (outbound : pair.outbound.1.outcome = some transmitted) :
    collector.captureAll pair.world =
      { round := some ((({} : Round).add made.received.kind received).add made.transmitted.kind
          transmitted)
        collector :=
          { collector with
            history := (collector.history.record collector.limit made.received.kind
              (recorded received)).record collector.limit made.transmitted.kind
                (recorded transmitted) }
        world := pair.next.world
        events := pair.inbound.1.events ++ failureEvents made.received.kind received ++
          pair.outbound.1.events ++ failureEvents made.transmitted.kind transmitted } := by
  simp only [Collector.captureAll, registered, metrics, Progress.captureEach, Progress.capture,
    capture_first, inbound, capture_second, outbound]
  rfl

end Pair

end WorkerVitals
