import WorkerVitals.Agent.Observation
import WorkerVitals.Proofs.Agent.Pair
import WorkerVitals.Proofs.Binary64.Positive
import WorkerVitals.Proofs.Collector.History

/-! The start of an agent. Its parts are made one after the other, and each checks a setting of its
own; so the first fault in the order of the parts is the one that is told of, and settings without
a fault always give an agent. -/
namespace WorkerVitals

variable {α β : Type}

/-- What a chain of checks comes to when these are all the faults that it could tell of. -/
inductive Finds : List Fault → Except Fault α → Prop where
  | nothing (value : α) : Finds [] (.ok value)
  | first (fault : Fault) (rest : List Fault) : Finds (fault :: rest) (.error fault)

namespace Finds

theorem bind {faults rest : List Fault} {checked : Except Fault α} {next : α → Except Fault β}
    (finds : Finds faults checked) (later : ∀ value, Finds rest (next value)) :
    Finds (faults ++ rest) (checked >>= next) := by
  cases finds with
  | nothing value => exact later value
  | first fault others => exact first fault (others ++ rest)

theorem eq_nil {faults : List Fault} {value : α} (finds : Finds faults (.ok value)) :
    faults = [] := by
  cases finds
  rfl

theorem head? {faults : List Fault} {fault : Fault}
    (finds : Finds faults (.error fault : Except Fault α)) (rest : List Fault) :
    (faults ++ rest).head? = some fault := by
  cases finds
  rfl

end Finds

def Fault.unless (condition : Prop) [Decidable condition] (fault : Fault) : List Fault :=
  if condition then [] else [fault]

theorem Fault.unless_eq_nil {condition : Prop} [Decidable condition] {fault : Fault} :
    fault.unless condition = [] ↔ condition := by
  simp [Fault.unless]

theorem Fault.finds_dite {condition : Prop} [Decidable condition] (fault : Fault)
    (value : condition → α) :
    Finds (fault.unless condition) (if held : condition then .ok (value held) else .error fault) := by
  unfold Fault.unless
  split
  · exact .nothing _
  · exact .first _ _

namespace Settings

/-- Settings that nothing speaks against. -/
structure Sound (settings : Settings) : Prop where
  inbound : 0 ≤ settings.networkInMax ∧ settings.networkInMax ≤ 100
  bandwidth : settings.maxBandwidthMbps.isNaN = false ∧ 0 < settings.maxBandwidthMbps
  outbound : 0 ≤ settings.networkOutMax ∧ settings.networkOutMax ≤ 100
  history : 1 ≤ settings.maxSamples

def ceilingFaults (max : Int64) : List Fault :=
  (Fault.ceilingOutOfRange max).unless (0 ≤ max ∧ max ≤ 100)

def bandwidthFaults (mbps : Float) : List Fault :=
  (Fault.bandwidthNotPositive mbps).unless (0 < mbps)

def historyFaults (maxSamples : UInt64) : List Fault :=
  Fault.historyTooShort.unless (0 < maxSamples.toNat)

/-- All faults of some settings, in the order in which they are told of. -/
def faults (settings : Settings) : List Fault :=
  ceilingFaults settings.networkInMax ++ bandwidthFaults settings.maxBandwidthMbps ++
    ceilingFaults settings.networkOutMax ++ historyFaults settings.maxSamples

theorem sound_iff (settings : Settings) : settings.Sound ↔ settings.faults = [] := by
  have bandwidth : settings.maxBandwidthMbps.isNaN = false ∧ 0 < settings.maxBandwidthMbps ↔
      0 < settings.maxBandwidthMbps :=
    and_iff_right_of_imp fun positive => (Binary64.pos_iff.mp positive).1
  have room : 1 ≤ settings.maxSamples ↔ 0 < settings.maxSamples.toNat := UInt64.le_iff_toNat_le
  simp only [faults, List.append_eq_nil_iff, ceilingFaults, bandwidthFaults, historyFaults,
    Fault.unless_eq_nil]
  exact ⟨fun ⟨inbound, valid, outbound, history⟩ =>
      ⟨⟨⟨inbound, bandwidth.mp valid⟩, outbound⟩, room.mp history⟩,
    fun ⟨⟨⟨inbound, positive⟩, outbound⟩, history⟩ =>
      ⟨inbound, bandwidth.mpr positive, outbound, room.mpr history⟩⟩

theorem finds_probe {settings : Settings} {direction : Network.Direction} {max : Int64}
    (ceiling : settings.ceiling direction = Ceiling.of max) :
    Finds (ceilingFaults max ++ bandwidthFaults settings.maxBandwidthMbps)
      (settings.probe direction) := by
  have checked : Finds (ceilingFaults max) (settings.ceiling direction) :=
    ceiling ▸ Fault.finds_dite _ _
  exact checked.bind fun _ => Fault.finds_dite _ _

end Settings

/-- A fresh probe with a ceiling from 0 to 100. -/
def Network.Probe.Made (direction : Direction) (max : Int64) (config : Config) (probe : Probe) :
    Prop :=
  ∃ ceiling, Ceiling.of max = .ok ceiling ∧ Probe.of direction ceiling config = .ok probe

theorem Network.Probe.Made.kind_eq {direction : Direction} {max : Int64} {config : Config}
    {probe : Probe} (made : Made direction max config probe) : probe.kind = direction.kind := by
  obtain ⟨ceiling, -, fresh⟩ := made
  obtain ⟨_, rfl⟩ := of_eq_ok fresh
  rfl

theorem Network.Probe.Made.max_eq {direction : Direction} {max : Int64} {config : Config}
    {probe : Probe} (made : Made direction max config probe) : probe.ceiling.max = max := by
  obtain ⟨ceiling, checked, fresh⟩ := made
  obtain ⟨_, rfl⟩ := of_eq_ok fresh
  unfold Ceiling.of at checked
  split at checked
  · cases checked
    rfl
  · cases checked

theorem Network.Probe.Made.unique {direction : Direction} {max : Int64} {config : Config}
    {probe other : Probe} (made : Made direction max config probe)
    (also : Made direction max config other) : probe = other := by
  obtain ⟨ceiling, checked, fresh⟩ := made
  obtain ⟨same, checked', fresh'⟩ := also
  obtain rfl := Except.ok.inj (checked.symm.trans checked')
  exact Except.ok.inj (fresh.symm.trans fresh')

theorem Settings.made_probe {settings : Settings} {direction : Network.Direction} {max : Int64}
    {probe : Network.Probe} (ceiling : settings.ceiling direction = Ceiling.of max)
    (made : settings.probe direction = .ok probe) :
    Network.Probe.Made direction max settings.networkConfig probe := by
  unfold Settings.probe at made
  rw [ceiling] at made
  cases checked : Ceiling.of max with
  | error fault =>
    rw [checked] at made
    cases made
  | ok given =>
    rw [checked] at made
    exact ⟨given, checked, made⟩

variable {E : Type}

/-- Fresh probes of both directions, as the settings ask for them. -/
structure Pair.Made (settings : Settings) (pair : Pair E) : Prop where
  received : Network.Probe.Made .received settings.networkInMax settings.networkConfig pair.received
  transmitted :
    Network.Probe.Made .transmitted settings.networkOutMax settings.networkConfig pair.transmitted

namespace Agent

variable [Surroundings E]

/-- Nothing was captured yet: the surroundings are those that the agent was given, and all that is
registered are fresh probes of the two directions. -/
structure Fresh (settings : Settings) (workerId : String) (surroundings : E) (agent : Agent E) :
    Prop where
  settings_eq : agent.settings = settings
  workerId_eq : agent.workerId = workerId
  cycles_eq : agent.cycles = 0
  unmarked : agent.lastCall = none
  unrecorded : ∀ kind, agent.collector.history kind = none
  limit_eq : agent.collector.limit = settings.maxSamples.toNat
  surroundings_eq : agent.world.surroundings = surroundings
  holds : ∃ pair : Pair E, pair.Made settings ∧ agent.world = pair.world ∧
    agent.collector.registry.metrics = pair.metrics
  registered :
    agent.collector.registry.metrics.map (fun metric => (metric.kind, metric.ceiling.max)) =
      [(.networkIn, settings.networkInMax), (.networkOut, settings.networkOutMax)]

theorem assemble_of_made {settings : Settings} {pair : Pair E} (made : pair.Made settings)
    (received : settings.probe .received = .ok pair.received)
    (transmitted : settings.probe .transmitted = .ok pair.transmitted) (hostName : String) :
    assemble settings hostName pair.surroundings =
      match Collector.of pair.registerBoth.1 settings.maxSamples.toNat with
      | .error fault => (.error fault, [])
      | .ok collector =>
        let workerId := settings.resolvedWorkerId hostName
        (.ok { settings, workerId, collector, world := pair.world },
          [.started workerId settings.interface settings.statFile]) := by
  obtain ⟨first, both, -⟩ :=
    Pair.register_distinct made.received.kind_eq made.transmitted.kind_eq
  have unfolded : assemble settings hostName pair.surroundings =
      match Collector.of pair.registerBoth.1 settings.maxSamples.toNat with
      | .error fault => (.error fault, pair.registerFirst.2 ++ pair.registerBoth.2)
      | .ok collector =>
        let workerId := settings.resolvedWorkerId hostName
        (.ok { settings, workerId, collector, world := pair.world },
          pair.registerFirst.2 ++ pair.registerBoth.2 ++
            [.started workerId settings.interface settings.statFile]) := by
    simp only [assemble, received, transmitted]
    rfl
  rw [unfolded, first, both]
  rfl

theorem fresh_of_made {settings : Settings} {pair : Pair E} (made : pair.Made settings)
    {collector : Collector (World E)}
    (checked : Collector.of pair.registerBoth.1 settings.maxSamples.toNat = .ok collector)
    (workerId : String) :
    Fresh settings workerId pair.surroundings
      { settings, workerId, collector, world := pair.world } := by
  obtain ⟨same, limit, unrecorded⟩ := Collector.of_eq_ok checked
  obtain ⟨-, -, metrics⟩ :=
    Pair.register_distinct made.received.kind_eq made.transmitted.kind_eq
  rw [← same] at metrics
  constructor
  case settings_eq | workerId_eq | cycles_eq | unmarked | surroundings_eq => rfl
  case limit_eq => exact limit
  case unrecorded => exact congrFun unrecorded
  case holds => exact ⟨pair, made, rfl, metrics⟩
  case registered =>
    simp [metrics, Pair.metrics, Pair.metric, made.received.kind_eq, made.transmitted.kind_eq,
      made.received.max_eq, made.transmitted.max_eq, Network.Direction.kind]

/-- The parts of an agent are made in the order of the faults. -/
theorem assemble_cases (settings : Settings) (hostName : String) (surroundings : E) :
    (∃ fault, settings.faults.head? = some fault ∧
        assemble settings hostName surroundings = (.error fault, [])) ∨
      (settings.faults = [] ∧ ∃ agent : Agent E,
        agent.Fresh settings (settings.resolvedWorkerId hostName) surroundings ∧
          assemble settings hostName surroundings = (.ok agent,
            [.started (settings.resolvedWorkerId hostName) settings.interface settings.statFile])) := by
  have inbound := @Settings.finds_probe settings .received _ rfl
  have outbound := @Settings.finds_probe settings .transmitted _ rfl
  cases received : settings.probe .received with
  | error fault =>
    rw [received] at inbound
    refine .inl ⟨fault, ?_, by simp only [assemble, received]⟩
    rw [Settings.faults, List.append_assoc]
    exact inbound.head? _
  | ok first =>
    rw [received] at inbound
    have narrow := (List.append_eq_nil_iff.mp inbound.eq_nil).2
    rw [narrow, List.append_nil] at outbound
    cases transmitted : settings.probe .transmitted with
    | error fault =>
      rw [transmitted] at outbound
      refine .inl ⟨fault, ?_, by simp only [assemble, received, transmitted]; rfl⟩
      rw [Settings.faults, inbound.eq_nil, List.nil_append]
      exact outbound.head? _
    | ok second =>
      rw [transmitted] at outbound
      let pair : Pair E := { received := first, transmitted := second, surroundings }
      have made : pair.Made settings :=
        ⟨Settings.made_probe rfl received, Settings.made_probe rfl transmitted⟩
      have history : Finds settings.faults
          (Collector.of pair.registerBoth.1 settings.maxSamples.toNat) := by
        rw [Settings.faults, inbound.eq_nil, outbound.eq_nil]
        exact Fault.finds_dite _ _
      rw [assemble_of_made made received transmitted hostName]
      cases checked : Collector.of pair.registerBoth.1 settings.maxSamples.toNat with
      | error fault =>
        rw [checked] at history
        exact .inl ⟨fault, List.append_nil settings.faults ▸ history.head? [], rfl⟩
      | ok collector =>
        rw [checked] at history
        exact .inr ⟨history.eq_nil, _, fresh_of_made made checked _, rfl⟩

theorem startUp_cases (settings : Settings) (hostName : String) (surroundings : E) :
    (∃ fault, settings.faults.head? = some fault ∧
        start settings hostName surroundings = .error fault ∧
        startUp settings hostName surroundings = .failed ("Error: " ++ fault.message) 1 []) ∨
      (settings.faults = [] ∧ ∃ agent events,
        agent.Fresh settings (settings.resolvedWorkerId hostName) surroundings ∧
          events =
            [.started (settings.resolvedWorkerId hostName) settings.interface settings.statFile] ∧
          start settings hostName surroundings = .ok (agent, events) ∧
          startUp settings hostName surroundings = .polling agent events) := by
  unfold start startUp
  rcases assemble_cases settings hostName surroundings with
    ⟨fault, first, failed⟩ | ⟨nothing, agent, fresh, assembled⟩
  · rw [failed]
    exact .inl ⟨fault, first, rfl, rfl⟩
  · rw [assembled]
    exact .inr ⟨nothing, agent, _, fresh, rfl, rfl, rfl⟩

theorem fresh_start {settings : Settings} {hostName : String} {surroundings : E}
    {agent : Agent E} {events : List Event}
    (accepted : start settings hostName surroundings = .ok (agent, events)) :
    agent.Fresh settings (settings.resolvedWorkerId hostName) surroundings := by
  rcases startUp_cases settings hostName surroundings with
    ⟨fault, -, failed, -⟩ | ⟨-, other, logged, fresh, -, started, -⟩
  · cases failed.symm.trans accepted
  · cases started.symm.trans accepted
    exact fresh

end Agent

namespace Startup

/-- The cycles that a program makes over some turns. -/
def cycles (turns : List Turn) : Startup E → List (Cycle E)
  | .failed .. => []
  | .polling agent _ => (agent.run turns).cycles

def events (turns : List Turn) : Startup E → List Event
  | .failed _ _ events => events
  | .polling agent events => events ++ (agent.run turns).events

end Startup

namespace Agent

variable [Surroundings E]

/-- The program comes to poll an agent exactly when its settings are sound. Nothing was captured by
then, and all that was logged is the start, as the two metrics stand side by side. Otherwise it ends
with a failure that tells of the first fault, and never captures or logs anything. -/
theorem start_decided (settings : Settings) (hostName : String) (surroundings : E) :
    ((∃ agent events, startUp settings hostName surroundings = .polling agent events) ↔
        settings.Sound) ∧
      (¬settings.Sound → ∃ fault, settings.faults.head? = some fault ∧
        start settings hostName surroundings = .error fault ∧
        startUp settings hostName surroundings = .failed ("Error: " ++ fault.message) 1 [] ∧
        ∀ turns, (startUp settings hostName surroundings).cycles turns = [] ∧
          (startUp settings hostName surroundings).events turns = []) ∧
      ∀ agent events, startUp settings hostName surroundings = .polling agent events →
        agent.Fresh settings (settings.resolvedWorkerId hostName) surroundings ∧
          events =
            [.started (settings.resolvedWorkerId hostName) settings.interface settings.statFile] ∧
          start settings hostName surroundings = .ok (agent, events) := by
  rw [settings.sound_iff]
  rcases startUp_cases settings hostName surroundings with
    ⟨fault, first, refused, failed⟩ | ⟨nothing, agent, events, fresh, logged, started, polling⟩
  · have faulty : settings.faults ≠ [] := by
      intro nothing
      rw [nothing] at first
      cases first
    rw [failed]
    refine ⟨iff_of_false ?_ faulty, fun _ => ?_, by rintro _ _ ⟨⟩⟩
    · rintro ⟨_, _, ⟨⟩⟩
    · exact ⟨fault, first, refused, rfl, fun _ => ⟨rfl, rfl⟩⟩
  · rw [polling]
    refine ⟨iff_of_true ⟨agent, events, rfl⟩ nothing, (absurd nothing ·), ?_⟩
    rintro _ _ ⟨⟩
    exact ⟨fresh, logged, started⟩

def faulty : Settings :=
  { networkInMax := -1, maxBandwidthMbps := 0, networkOutMax := 101, maxSamples := 0 }

/-- The first of four faults is told of, and the settings that nobody changed have none. -/
theorem start_decided_faulty :
    faulty.faults = [.ceilingOutOfRange (-1), .bandwidthNotPositive 0, .ceilingOutOfRange 101,
        .historyTooShort] ∧
      ¬faulty.Sound ∧
      startUp faulty "host" Observations.unseen =
        .failed "Error: invalid maxUtilization -1: must be within 0..=100" 1 [] ∧
      ∃ agent : Agent Observations,
        startUp {} "host" Observations.unseen =
            .polling agent [.started "host" "eth0" "/proc/net/dev"] ∧
          agent.Fresh {} "host" Observations.unseen := by
  have all : faulty.faults = [.ceilingOutOfRange (-1), .bandwidthNotPositive 0,
      .ceilingOutOfRange 101, .historyTooShort] := by
    decide +kernel
  have unsound : ¬faulty.Sound := by simp [faulty.sound_iff, all]
  have sound : Settings.Sound {} := (Settings.sound_iff {}).mpr (by decide +kernel)
  obtain ⟨-, refused, -⟩ := start_decided faulty "host" Observations.unseen
  obtain ⟨accepted, -, fresh⟩ := start_decided {} "host" Observations.unseen
  obtain ⟨fault, first, -, failed, -⟩ := refused unsound
  rw [all] at first
  cases first
  have worded : "Error: " ++ (Fault.ceilingOutOfRange (-1)).message =
      "Error: invalid maxUtilization -1: must be within 0..=100" := by decide +kernel
  rw [worded] at failed
  obtain ⟨agent, events, started⟩ := accepted.mpr sound
  obtain ⟨new, rfl, -⟩ := fresh agent events started
  exact ⟨all, unsound, failed, agent, started, new⟩

end Agent

end WorkerVitals
