import WorkerVitals.Proofs.Agent.Spacing
import WorkerVitals.Proofs.Collector.Report

/-! Whole runs of an agent that is told how many rounds to make. Along a run the agent keeps in step
with its two probes: what their captures came to so far decides what it publishes next. -/
namespace WorkerVitals

variable {E : Type}

/-- The events that tell of a snapshot: its publication, and the warning that may go with it. -/
def Event.ofSnapshot : Event → Bool
  | .snapshot .. | .untrusted _ => true
  | _ => false

/-- What a worker reports after some captures of either direction: the newest outcomes of each that
there is room for, and the ceilings of both. -/
def Settings.report (settings : Settings) (workerId : String)
    (received transmitted : List (Except Fault Sample)) (stamp : Time.Instant) : Snapshot where
  workerId := some workerId
  lastUpdateTime := some stamp.epochSeconds
  metricStats := some (.ofList
    [("NI", (received.map fun outcome => Obtained.value (.networkIn, outcome)).rtake
        settings.maxSamples.toNat),
      ("NO", (transmitted.map fun outcome => Obtained.value (.networkOut, outcome)).rtake
        settings.maxSamples.toNat)])
  operatingRange := some (.ofList
    [("NI", [settings.networkInMax, 0]), ("NO", [settings.networkOutMax, 0])])

/-- Such a report is not to be acted on. -/
def Settings.Doubtful (settings : Settings) (workerId : String) : Prop :=
  workerId = "" ∨ settings.networkInMax = 0 ∨ settings.networkOutMax = 0

instance (settings : Settings) (workerId : String) : Decidable (settings.Doubtful workerId) :=
  inferInstanceAs (Decidable (_ ∨ _))

theorem Settings.isValid_report (settings : Settings) (workerId : String)
    (received transmitted : List (Except Fault Sample)) (stamp : Time.Instant) :
    (settings.report workerId received transmitted stamp).isValid = true ↔
      workerId ≠ "" ∧ 0 < settings.networkInMax ∧ 0 < settings.networkOutMax := by
  have keys (a b : List Float) : (NameMap.ofList [("NI", a), ("NO", b)]).keys = ["NI", "NO"] := rfl
  have first (a b : List Int64) : (NameMap.ofList [("NI", a), ("NO", b)]).get? "NI" = some a := rfl
  have second (a b : List Int64) : (NameMap.ofList [("NI", a), ("NO", b)]).get? "NO" = some b := rfl
  simp [Snapshot.isValid, report, keys, first, second, Snapshot.opensPositive]

theorem Settings.mem_samples_report {settings : Settings} {workerId : String}
    {received transmitted : List (Except Fault Sample)} {stamp : Time.Instant} {x : Float}
    (member : x ∈ (settings.report workerId received transmitted stamp).samples) :
    (∃ outcome ∈ received, Obtained.value (.networkIn, outcome) = x) ∨
      ∃ outcome ∈ transmitted, Obtained.value (.networkOut, outcome) = x := by
  have values (a b : List Float) : (NameMap.ofList [("NI", a), ("NO", b)]).values = [a, b] := rfl
  simp only [Snapshot.samples, report, Option.elim_some, values, List.flatten_cons,
    List.flatten_nil, List.append_nil, List.mem_append] at member
  rcases member with first | second
  · exact .inl (List.mem_map.mp (List.mem_of_mem_drop first))
  · exact .inr (List.mem_map.mp (List.mem_of_mem_drop second))

theorem Settings.finite_report (settings : Settings) (workerId : String)
    (received transmitted : List (Except Fault Sample)) (stamp : Time.Instant) :
    ∀ x ∈ (settings.report workerId received transmitted stamp).samples, x.isFinite = true := by
  intro x member
  rcases Settings.mem_samples_report member with ⟨outcome, -, rfl⟩ | ⟨outcome, -, rfl⟩
  · exact (Obtained.recordable _).isFinite
  · exact (Obtained.recordable _).isFinite

theorem Network.Probe.Made.pos_iff {direction : Direction} {max : Int64} {config : Config}
    {probe : Probe} (made : Made direction max config probe) : 0 < max ↔ max ≠ 0 :=
  made.max_eq ▸ probe.ceiling.pos_iff

namespace Agent

theorem doubt_report {settings : Settings} {pair : Pair E} (made : pair.Made settings)
    (workerId : String) (received transmitted : List (Except Fault Sample))
    (stamp : Time.Instant) :
    doubt workerId (settings.report workerId received transmitted stamp) =
      if settings.Doubtful workerId then [.untrusted workerId] else [] := by
  have sure : (settings.report workerId received transmitted stamp).isValid = true ↔
      ¬settings.Doubtful workerId := by
    rw [Settings.isValid_report, made.received.pos_iff, made.transmitted.pos_iff,
      Settings.Doubtful, not_or, not_or]
  simp only [doubt, sure, ite_not]

theorem reachedLimit_iff {settings : Settings} {limit : UInt64}
    (bounded : settings.maxRounds = some limit) (cycles : Nat) :
    reachedLimit settings cycles = true ↔ limit.toNat ≤ cycles := by
  simp [reachedLimit, bounded]

/-- What follows a cycle is decided by the number of cycles alone. -/
theorem next_decide (agent : Agent E) (asked : Time.Instant) :
    if reachedLimit agent.settings agent.cycles then (agent.decide asked).1 = .finish
    else ∃ millis, (agent.decide asked).1 = .wait millis := by
  unfold Agent.decide
  split
  · rfl
  · exact ⟨_, rfl⟩

theorem ofSnapshot_decide (agent : Agent E) (asked : Time.Instant) :
    (agent.decide asked).2.filter Event.ofSnapshot = [] := by
  unfold Agent.decide
  split <;> rfl

def completing (agent : Agent E) (round : Round) (turn : Turn) : Agent E :=
  { agent with
    collector := (agent.collector.captureAll agent.world).collector
    world := (agent.collector.captureAll agent.world).world
    lastCall := if round.isClean then some turn.stamp else agent.lastCall
    cycles := agent.cycles + 1 }

theorem cycle_completed {agent : Agent E} {round : Round}
    (completed : (agent.collector.captureAll agent.world).round = some round) (turn : Turn) :
    agent.cycle turn =
      { turn
        agent := agent.completing round turn
        round := some round
        next := ((agent.completing round turn).decide turn.asked).1
        events := (agent.collector.captureAll agent.world).events ++
          doubt agent.workerId ((agent.completing round turn).collector.snapshot agent.workerId
            turn.stamp.epochSeconds) ++
          ((agent.completing round turn).collector.snapshot agent.workerId
            turn.stamp.epochSeconds).publish ++
          ((agent.completing round turn).decide turn.asked).2 } := by
  simp only [cycle, completed]
  rfl

/-- A cycle after which these are the outcomes of all captures so far. -/
structure Reports (settings : Settings) (workerId : String)
    (received transmitted : List (Except Fault Sample)) (cycle : Cycle E) : Prop where
  told :
    let report := settings.report workerId received transmitted cycle.turn.stamp
    cycle.events.filter Event.ofSnapshot =
      (if settings.Doubtful workerId then [.untrusted workerId] else []) ++
        [.snapshot workerId report.isValid report.anyFailing report.json]
  onward : if reachedLimit settings received.length then cycle.next = .finish
    else ∃ millis, cycle.next = .wait millis

variable [Surroundings E]

/-- An agent before a round: its world holds the pair after as many rounds as it has made, what was
captured so far are the first outcomes of the pair, and its histories are the newest of these. -/
structure Tracks (settings : Settings) (workerId : String) (pair : Pair E)
    (received transmitted : List (Except Fault Sample)) (agent : Agent E) : Prop where
  settings_eq : agent.settings = settings
  workerId_eq : agent.workerId = workerId
  cycles_eq : agent.cycles = received.length
  world_eq : agent.world = (pair.after received.length).world
  metrics_eq : agent.collector.registry.metrics = pair.metrics
  limit_eq : agent.collector.limit = settings.maxSamples.toNat
  inbound : received.map some = Pair.outcomes Pair.inbound pair received.length
  outbound : transmitted.map some = Pair.outcomes Pair.outbound pair received.length
  history_eq : agent.collector.history = fun
    | .networkIn => newest? settings.maxSamples.toNat (received.map recorded)
    | .networkOut => newest? settings.maxSamples.toNat (transmitted.map recorded)
    | .cpu | .memory => none

/-- An agent that starts tracks a fresh pair in the surroundings that it was given. -/
theorem tracks_start {settings : Settings} {hostName : String} {surroundings : E}
    {agent : Agent E} {events : List Event}
    (accepted : start settings hostName surroundings = .ok (agent, events)) :
    ∃ pair : Pair E, pair.Made settings ∧ pair.surroundings = surroundings ∧
      agent.Tracks settings (settings.resolvedWorkerId hostName) pair [] [] := by
  have fresh := fresh_start accepted
  obtain ⟨pair, made, world, metrics⟩ := fresh.holds
  refine ⟨pair, made, ?_, ?_⟩
  · rw [← fresh.surroundings_eq, world]
    rfl
  constructor
  case settings_eq => exact fresh.settings_eq
  case workerId_eq => exact fresh.workerId_eq
  case cycles_eq => exact fresh.cycles_eq
  case world_eq => exact world
  case metrics_eq => exact metrics
  case limit_eq => exact fresh.limit_eq
  case inbound | outbound => rfl
  case history_eq =>
    funext kind
    rw [fresh.unrecorded]
    cases kind <;> simp [newest?]

theorem Tracks.snapshot {settings : Settings} {workerId : String} {pair : Pair E}
    {received transmitted : List (Except Fault Sample)} {agent : Agent E}
    (tracks : agent.Tracks settings workerId pair received transmitted)
    (made : pair.Made settings) (some_received : received ≠ []) (some_transmitted : transmitted ≠ [])
    (stamp : Time.Instant) :
    agent.collector.snapshot workerId stamp.epochSeconds =
      settings.report workerId received transmitted stamp := by
  have kept {outcomes : List (Except Fault Sample)} (captured : outcomes ≠ []) :
      newest? settings.maxSamples.toNat (outcomes.map recorded) =
        some ((outcomes.map recorded).rtake settings.maxSamples.toNat) :=
    if_neg (mt List.map_eq_nil_iff.mp captured)
  have inbound : (Pair.metric 0 pair.received : Metric (World E)).kind = .networkIn :=
    made.received.kind_eq
  have outbound : (Pair.metric 1 pair.transmitted : Metric (World E)).kind = .networkOut :=
    made.transmitted.kind_eq
  have stats : agent.collector.stats = .ofList
      [("NI", (received.map recorded).rtake settings.maxSamples.toNat),
        ("NO", (transmitted.map recorded).rtake settings.maxSamples.toNat)] := by
    simp [Collector.stats, tracks.history_eq, Kind.all, kept some_received, kept some_transmitted,
      Kind.shortName]
  have ranges : agent.collector.ranges =
      .ofList [("NI", [settings.networkInMax, 0]), ("NO", [settings.networkOutMax, 0])] := by
    rw [Collector.ranges, tracks.metrics_eq, Pair.metrics, ← made.received.max_eq,
      ← made.transmitted.max_eq]
    simp only [List.map_cons, List.map_nil, inbound, outbound]
    rfl
  have value (kind : Kind) : recorded = fun outcome => Obtained.value (kind, outcome) :=
    funext (recorded_eq_value kind)
  rw [Collector.snapshot, stats, ranges, Settings.report]
  nth_rewrite 1 [value .networkIn]
  rw [value .networkOut]

/-- After one more round the agent tracks one more outcome of each probe. -/
theorem Tracks.completing {settings : Settings} {workerId : String} {pair : Pair E}
    {received transmitted : List (Except Fault Sample)} {agent : Agent E}
    (tracks : agent.Tracks settings workerId pair received transmitted)
    (made : pair.Made settings) {inbound outbound : Except Fault Sample}
    (first : (pair.after received.length).inbound.1.outcome = some inbound)
    (second : (pair.after received.length).outbound.1.outcome = some outbound)
    (round : Round) (turn : Turn) :
    (agent.completing round turn).Tracks settings workerId pair (received ++ [inbound])
      (transmitted ++ [outbound]) := by
  have ended := (pair.after received.length).captureAll_world pair tracks.metrics_eq first second
  rw [← tracks.world_eq] at ended
  unfold Agent.completing
  rw [ended]
  constructor
  case settings_eq => exact tracks.settings_eq
  case workerId_eq => exact tracks.workerId_eq
  case cycles_eq => simp [tracks.cycles_eq]
  case world_eq => simp [Pair.after]
  case metrics_eq => exact tracks.metrics_eq
  case limit_eq => exact tracks.limit_eq
  case inbound =>
    rw [List.length_append, List.length_singleton, Pair.outcomes_succ, first,
      ← tracks.inbound, List.map_append, List.map_singleton]
  case outbound =>
    rw [List.length_append, List.length_singleton, Pair.outcomes_succ, second,
      ← tracks.outbound, List.map_append, List.map_singleton]
  case history_eq =>
    have room : 0 < settings.maxSamples.toNat := tracks.limit_eq ▸ agent.collector.limit_pos
    funext kind
    change ((agent.collector.history.record agent.collector.limit pair.received.kind
      (recorded inbound)).record agent.collector.limit pair.transmitted.kind
        (recorded outbound)) kind = _
    rw [made.received.kind_eq, made.transmitted.kind_eq, tracks.limit_eq, tracks.history_eq]
    cases kind with
    | cpu | memory => rfl
    | networkIn | networkOut =>
      simp [Network.Direction.kind, record_other, record_same, newest?_concat room]

theorem ofSnapshot_captureAll {pair made : Pair E} {collector : Collector (World E)}
    (registered : collector.registry.metrics = made.metrics)
    {inbound outbound : Except Fault Sample} (first : pair.inbound.1.outcome = some inbound)
    (second : pair.outbound.1.outcome = some outbound) :
    (collector.captureAll pair.world).events.filter Event.ofSnapshot = [] := by
  have measured {probe : Network.Probe} {surroundings : E} :
      ∀ event ∈ (Pair.look probe surroundings).1.events, event.ofSnapshot = false := by
    intro event logged
    obtain ⟨measured, rfl⟩ := Network.Probe.of_mem_events_capture logged
    rfl
  have failed {kind : Kind} {outcome : Except Fault Sample} :
      ∀ event ∈ failureEvents kind outcome, event.ofSnapshot = false := by
    cases outcome <;> simp [failureEvents, Event.ofSnapshot]
  rw [pair.captureAll_world made registered first second]
  simp only [List.filter_eq_nil_iff, List.mem_append, Bool.not_eq_true]
  rintro event (((logged | logged) | logged) | logged)
  · exact measured event logged
  · exact failed event logged
  · exact measured event logged
  · exact failed event logged

/-- A cycle captures both probes once, whatever comes of it, publishes what is kept by then, and
doubts it or not for reasons that do not change. -/
theorem Tracks.cycle
    (reliable : ∀ surroundings : E, ∃ now, (Time.Ticker.read surroundings).1 = some now)
    {settings : Settings} {workerId : String} {pair : Pair E}
    {received transmitted : List (Except Fault Sample)} {agent : Agent E}
    (tracks : agent.Tracks settings workerId pair received transmitted)
    (made : pair.Made settings) (turn : Turn) :
    ∃ inbound outbound,
      (agent.cycle turn).agent.Tracks settings workerId pair (received ++ [inbound])
          (transmitted ++ [outbound]) ∧
        Reports settings workerId (received ++ [inbound]) (transmitted ++ [outbound])
          (agent.cycle turn) := by
  obtain ⟨inbound, outbound, first, second⟩ := (pair.after received.length).answered reliable
  refine ⟨inbound, outbound, ?_⟩
  have ended := (pair.after received.length).captureAll_world pair tracks.metrics_eq first second
  have silent := ofSnapshot_captureAll tracks.metrics_eq first second
  rw [← tracks.world_eq] at ended silent
  obtain ⟨round, completed⟩ :
      ∃ round, (agent.collector.captureAll agent.world).round = some round :=
    ⟨_, congrArg Collector.RoundEnd.round ended⟩
  have after := tracks.completing made first second round turn
  have snapshot := after.snapshot made (by simp) (by simp) turn.stamp
  rw [cycle_completed completed, tracks.workerId_eq, snapshot]
  refine ⟨after, ?_, ?_⟩
  · simp only [List.filter_append, silent, List.nil_append, doubt_report made, ofSnapshot_decide,
      List.append_nil]
    congr 1
    split <;> rfl
  · have next := next_decide (agent.completing round turn) turn.asked
    rwa [after.settings_eq, after.cycles_eq] at next

/-- From any round on, an agent that is told how many rounds to make makes the rest of them. -/
theorem Tracks.run
    (reliable : ∀ surroundings : E, ∃ now, (Time.Ticker.read surroundings).1 = some now)
    {settings : Settings} {workerId : String} {pair : Pair E} (made : pair.Made settings)
    {limit : UInt64} (bounded : settings.maxRounds = some limit) {agent : Agent E}
    {received transmitted : List (Except Fault Sample)}
    (tracks : agent.Tracks settings workerId pair received transmitted)
    (short : received.length < max limit.toNat 1) {turns : List Turn}
    (uninterrupted : ∀ turn ∈ turns, turn.interrupted = false)
    (enough : max limit.toNat 1 ≤ received.length + turns.length) :
    (agent.run turns).ending = .finished ∧
      received.length + (agent.run turns).cycles.length = max limit.toNat 1 ∧
      ∀ place cycle, (agent.run turns).cycles[place]? = some cycle →
        turns[place]? = some cycle.turn ∧ ∃ received' transmitted',
          received'.map some = Pair.outcomes Pair.inbound pair (received.length + (place + 1)) ∧
            transmitted'.map some =
              Pair.outcomes Pair.outbound pair (received.length + (place + 1)) ∧
            Reports settings workerId received' transmitted' cycle := by
  induction turns generalizing agent received transmitted with
  | nil =>
    simp only [List.length_nil] at enough
    omega
  | cons turn rest ih =>
    obtain ⟨inbound, outbound, after, reports⟩ := tracks.cycle reliable made turn
    have length : (received ++ [inbound]).length = received.length + 1 := by simp
    have first : (turn :: rest)[0]? = some (agent.cycle turn).turn := by rw [turn_cycle]; rfl
    have inbound_eq := length ▸ after.inbound
    have outbound_eq := length ▸ after.outbound
    rw [List.length_cons] at enough
    by_cases reached : limit.toNat ≤ received.length + 1
    · have finish : (agent.cycle turn).next = .finish := by
        simpa [reachedLimit_iff bounded, reached] using reports.onward
      have only : agent.run (turn :: rest) =
          { cycles := [agent.cycle turn], ending := .finished } := by
        simp only [Agent.run, finish]
      rw [only]
      refine ⟨rfl, by simp only [List.length_singleton]; omega, ?_⟩
      intro place cycle found
      cases place with
      | zero =>
        obtain rfl : agent.cycle turn = cycle := Option.some.inj found
        exact ⟨first, _, _, inbound_eq, outbound_eq, reports⟩
      | succ place => cases found
    · obtain ⟨millis, waits⟩ : ∃ millis, (agent.cycle turn).next = .wait millis := by
        simpa [reachedLimit_iff bounded, reached] using reports.onward
      have calm : turn.interrupted = false := uninterrupted turn List.mem_cons_self
      have later : agent.run (turn :: rest) =
          { (agent.cycle turn).agent.run rest with
            cycles := agent.cycle turn :: ((agent.cycle turn).agent.run rest).cycles } := by
        simp [Agent.run, waits, calm]
      obtain ⟨ending, count, told⟩ := ih after (by omega)
        (fun turn member => uninterrupted turn (List.mem_cons_of_mem _ member)) (by omega)
      rw [later]
      refine ⟨ending, by rw [List.length_cons]; omega, ?_⟩
      intro place cycle found
      cases place with
      | zero =>
        obtain rfl : agent.cycle turn = cycle := Option.some.inj found
        exact ⟨first, _, _, inbound_eq, outbound_eq, reports⟩
      | succ place =>
        have shifted : (received ++ [inbound]).length + (place + 1) =
            received.length + (place + 1 + 1) := by omega
        exact shifted ▸ told place cycle found

/-- An accepted agent that is told how many rounds to make, and is not interrupted, makes them, one
at least, and finishes. Whatever its captures meet, each round publishes one snapshot, with the
newest outcomes of both directions until then, in a text that is read as it; the warning goes with
all of them or with none; and there is a wait after each round but the last. -/
theorem run_bounded
    (reliable : ∀ surroundings : E, ∃ now, (Time.Ticker.read surroundings).1 = some now)
    {settings : Settings} {hostName : String} {surroundings : E} {agent : Agent E}
    {events : List Event} (accepted : start settings hostName surroundings = .ok (agent, events))
    {limit : UInt64} (bounded : settings.maxRounds = some limit) {turns : List Turn}
    (uninterrupted : ∀ turn ∈ turns, turn.interrupted = false)
    (enough : max limit.toNat 1 ≤ turns.length) :
    (agent.run turns).ending = .finished ∧
      (agent.run turns).cycles.length = max limit.toNat 1 ∧
      ∃ pair : Pair E, pair.Made settings ∧ pair.surroundings = surroundings ∧
        ∀ place cycle, (agent.run turns).cycles[place]? = some cycle →
          turns[place]? = some cycle.turn ∧
            (if place + 1 = max limit.toNat 1 then cycle.next = .finish
              else ∃ millis, cycle.next = .wait millis) ∧
            ∃ received transmitted,
              received.map some = Pair.outcomes Pair.inbound pair (place + 1) ∧
                transmitted.map some = Pair.outcomes Pair.outbound pair (place + 1) ∧
                let workerId := settings.resolvedWorkerId hostName
                let report := settings.report workerId received transmitted cycle.turn.stamp
                cycle.events.filter Event.ofSnapshot =
                    (if settings.Doubtful workerId then [.untrusted workerId] else []) ++
                      [.snapshot workerId report.isValid report.anyFailing report.json] ∧
                  (report.Faithful → Snapshot.ofJson report.json = .ok report) := by
  obtain ⟨pair, made, same, tracks⟩ := tracks_start accepted
  obtain ⟨ending, count, told⟩ := tracks.run reliable made bounded (by simp) uninterrupted
    (by simpa using enough)
  rw [List.length_nil, Nat.zero_add] at count
  refine ⟨ending, count, pair, made, same, ?_⟩
  intro place cycle found
  obtain ⟨turn, received, transmitted, inbound, outbound, reports⟩ := told place cycle found
  rw [List.length_nil, Nat.zero_add] at inbound outbound
  refine ⟨turn, ?_, received, transmitted, inbound, outbound, reports.told, fun faithful =>
    Snapshot.ofJson_jsonIn_of_finite faithful (settings.finite_report _ _ _ _) .sorted⟩
  have within : place < max limit.toNat 1 := count ▸ (List.getElem?_eq_some_iff.mp found).1
  have length : received.length = place + 1 := by
    simpa [Pair.outcomes] using congrArg List.length inbound
  have last : reachedLimit settings received.length = true ↔ place + 1 = max limit.toNat 1 := by
    rw [reachedLimit_iff bounded, length]
    omega
  have onward := reports.onward
  simpa only [last] using onward

/-- Fresh probes under a table that fades. -/
def fadingPair : Pair Observations where
  received := Network.Probe.inbound
  transmitted := { Network.Probe.inbound with direction := .transmitted }
  surroundings := fading

theorem eq_fadingPair {pair : Pair Observations} (made : pair.Made { maxRounds := some 3 })
    (met : pair.surroundings = fading) : pair = fadingPair := by
  obtain ⟨received, transmitted, surroundings⟩ := pair
  obtain rfl : surroundings = fading := met
  obtain rfl := made.received.unique (⟨_, rfl, rfl⟩ : Network.Probe.Made _ _ _ fadingPair.received)
  obtain rfl :=
    made.transmitted.unique (⟨_, rfl, rfl⟩ : Network.Probe.Made _ _ _ fadingPair.transmitted)
  rfl

theorem faithful_report_fading {place : Nat} (within : place < 3)
    {received transmitted : List (Except Fault Sample)}
    (inbound : received.map some = Pair.outcomes Pair.inbound fadingPair (place + 1))
    (outbound : transmitted.map some = Pair.outcomes Pair.outbound fadingPair (place + 1))
    (settings : Settings) (workerId : String) (stamp : Time.Instant) :
    (settings.report workerId received transmitted stamp).Faithful := by
  have reread : ∀ place < 3,
      (∀ outcome ∈ Pair.outcomes Pair.inbound fadingPair (place + 1), ∀ found ∈ outcome,
        Json.Rereads (Obtained.value (.networkIn, found))) ∧
      ∀ outcome ∈ Pair.outcomes Pair.outbound fadingPair (place + 1), ∀ found ∈ outcome,
        Json.Rereads (Obtained.value (.networkOut, found)) := by
    decide +kernel
  obtain ⟨first, second⟩ := reread place within
  intro x member _
  rcases Settings.mem_samples_report member with ⟨outcome, captured, rfl⟩ | ⟨outcome, captured, rfl⟩
  · exact first _ (inbound ▸ List.mem_map_of_mem captured) outcome rfl
  · exact second _ (outbound ▸ List.mem_map_of_mem captured) outcome rfl

/-- Three rounds under a table that fades after the first. -/
theorem run_bounded_fading :
    ∃ (agent : Agent Observations) (events : List Event),
      start { maxRounds := some 3 } "host" fading = .ok (agent, events) ∧
        (∀ turn ∈ everySecond, turn.interrupted = false) ∧
        max (3 : UInt64).toNat 1 ≤ everySecond.length ∧
        (agent.run everySecond).ending = .finished ∧
        (agent.run everySecond).cycles.length = 3 ∧
        ∀ cycle ∈ (agent.run everySecond).cycles, ∃ report : Snapshot,
          cycle.events.filter Event.ofSnapshot =
              [.snapshot "host" true report.anyFailing report.json] ∧
            report.Faithful ∧ Snapshot.ofJson report.json = .ok report := by
  have reliable (surroundings : Observations) :
      ∃ now, (Time.Ticker.read surroundings).1 = some now := ⟨_, rfl⟩
  have calm : ∀ turn ∈ everySecond, turn.interrupted = false := by
    simp [everySecond, turnAt]
  cases accepted : start { maxRounds := some 3 } "host" fading with
  | error fault =>
    have started : (start { maxRounds := some 3 } "host" fading).isOk = true := by decide +kernel
    rw [accepted] at started
    cases started
  | ok started =>
    obtain ⟨agent, events⟩ := started
    obtain ⟨ending, count, pair, made, met, told⟩ :=
      run_bounded reliable accepted rfl calm (by decide)
    obtain rfl := eq_fadingPair made met
    refine ⟨agent, events, rfl, calm, by decide, ending, count, ?_⟩
    intro cycle member
    obtain ⟨place, found⟩ := List.mem_iff_getElem?.mp member
    obtain ⟨-, -, received, transmitted, inbound, outbound, published, reads⟩ :=
      told place cycle found
    have within : place < 3 := (List.getElem?_eq_some_iff.mp found).1.trans_eq count
    have faithful := faithful_report_fading within inbound outbound
      { maxRounds := some 3 } "host" cycle.turn.stamp
    have valid : (Settings.report { maxRounds := some 3 } "host" received transmitted
        cycle.turn.stamp).isValid = true := (Settings.isValid_report ..).mpr (by decide)
    rw [if_neg (by decide), List.nil_append,
      show Settings.resolvedWorkerId { maxRounds := some 3 } "host" = "host" from rfl,
      valid] at published
    exact ⟨_, published, faithful, reads faithful⟩

end Agent

end WorkerVitals
