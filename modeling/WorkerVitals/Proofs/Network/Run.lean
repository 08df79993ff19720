import Mathlib.Data.List.Induction
import WorkerVitals.Proofs.Network.Capture

/-! Runs of captures of one probe. The log of a run has an entry for each capture that read the
table. It decides what every capture comes to: the counters and the restart of the newest entry are
all that a probe remembers, and they always belong together. -/
namespace WorkerVitals.Network

variable {C : Type} [Time.Ticker C]

/-- What one capture meets: the file as it is then, and a clock that answers two reads. -/
structure Visit (C : Type) [Time.Ticker C] where
  table : File.Content
  clock : C
  first : Time.Duration
  second : Time.Duration
  reads : (Time.Ticker.read clock).1 = some first
  rereads : (Time.Ticker.read (Time.Ticker.read clock).2).1 = some second

def Visit.once (visit : Visit C) : C := (Time.Ticker.read visit.clock).2

def Visit.twice (visit : Visit C) : C := (Time.Ticker.read visit.once).2

/-- A capture that read the table, as the captures after it see it. -/
structure Entry where
  counters : Counters
  restartedAt : Time.Duration

/-- At most 100, and 100 too for what is no number. -/
def capped (share : Float) : Float := if share ≤ 100 then share else 100

namespace Probe

/-- The captures of a run: what each came to, and the probe and the clock after it. -/
def run (probe : Probe) : List (Visit C) → List (Capture × Probe × C)
  | [] => []
  | visit :: rest =>
    let ended := probe.capture visit.table visit.clock
    ended :: ended.2.1.run rest

/-- The visits whose table is read, each with its counters. -/
def readings (probe : Probe) (visits : List (Visit C)) : List (Counters × Visit C) :=
  visits.filterMap fun visit => (probe.readCounters visit.table).toOption.map (·, visit)

/-- The captures of a run that read the table. The first of them reads the clock once, to start the
stopwatch; every later one restarts it with its second reading. -/
def log (probe : Probe) (visits : List (Visit C)) : List Entry :=
  match probe.readings visits with
  | [] => []
  | (counters, visit) :: later =>
    ⟨counters, visit.first⟩ :: later.map fun (counters, visit) => ⟨counters, visit.second⟩

/-- A probe that remembers the newest entry of a log. -/
def remembering (probe : Probe) (log : List Entry) : Probe :=
  { probe with
    lastCounters := log.getLast?.map Entry.counters
    stopwatch := ⟨log.getLast?.map Entry.restartedAt⟩ }

/-- What a capture comes to after the captures of a log: its outcome and events, the probe and the
clock after it. -/
inductive Follows (probe : Probe) (log : List Entry) (visit : Visit C) :
    Capture × Probe × C → Prop where
  /-- Nothing is remembered of a table that is not read, and the clock is not looked at. -/
  | unread {fault : Fault} (failed : probe.readCounters visit.table = .error fault) :
      Follows probe log visit
        ({ outcome := some (.error fault) }, probe.remembering log, visit.clock)
  /-- The first table that is read gives zero. -/
  | first {counters : Counters} (read : probe.readCounters visit.table = .ok counters)
      (fresh : log = []) :
      Follows probe log visit
        ({ outcome := some (.ok .zero)
           events := [.utilization
            { interface := probe.config.interface, direction := probe.direction, deltaBytes := 0
              elapsedSecs := 1, rateMbps := 0, percentage := 0 }] },
          probe.remembering (log ++ [⟨counters, visit.first⟩]), visit.once)
  /-- A clock that did not move on since the restart fails the capture, which is remembered all the
  same. -/
  | stalled {counters : Counters} {previous : Entry}
      (read : probe.readCounters visit.table = .ok counters)
      (newest : log.getLast? = some previous)
      (still : visit.first.nanos ≤ previous.restartedAt.nanos) :
      Follows probe log visit
        ({ outcome := some (.error (.noTimeElapsed probe.config.statFile)) },
          probe.remembering (log ++ [⟨counters, visit.second⟩]), visit.twice)
  /-- Otherwise the bytes moved since the newest entry are divided by the time since its restart. -/
  | measured {counters : Counters} {previous : Entry} {delta : UInt64} {elapsed : Time.Duration}
      {sample : Sample} (read : probe.readCounters visit.table = .ok counters)
      (newest : log.getLast? = some previous)
      (moved : delta.toNat = (((counters.get probe.direction).toNat : Int) -
        (previous.counters.get probe.direction).toNat).natAbs)
      (passed : elapsed.nanos = visit.first.nanos - previous.restartedAt.nanos)
      (positive : 0 < elapsed.nanos)
      (share : sample.value = capped
        (delta.toFloat / 1048576 / elapsed.toFloat / probe.config.maxBandwidthMbps * 100)) :
      Follows probe log visit
        ({ outcome := some (.ok sample)
           events := [.utilization
            { interface := probe.config.interface, direction := probe.direction
              deltaBytes := delta, elapsedSecs := elapsed.toFloat
              rateMbps := delta.toFloat / 1048576 / elapsed.toFloat
              percentage := sample.value }] },
          probe.remembering (log ++ [⟨counters, visit.second⟩]), visit.twice)

@[simp] theorem readCounters_remembering (probe : Probe) (log : List Entry)
    (table : File.Content) : (probe.remembering log).readCounters table = probe.readCounters table := by
  cases table <;> rfl

theorem remembering_concat (probe : Probe) (log : List Entry) (entry : Entry) :
    probe.remembering (log ++ [entry]) =
      { probe with lastCounters := some entry.counters, stopwatch := ⟨some entry.restartedAt⟩ } := by
  simp [remembering]

theorem log_concat_unread {probe : Probe} {visit : Visit C} {fault : Fault}
    (failed : probe.readCounters visit.table = .error fault) (visits : List (Visit C)) :
    probe.log (visits ++ [visit]) = probe.log visits := by
  simp [log, readings, failed, Except.toOption]

theorem log_concat_read {probe : Probe} {visit : Visit C} {counters : Counters}
    (read : probe.readCounters visit.table = .ok counters) (visits : List (Visit C)) :
    probe.log (visits ++ [visit]) = probe.log visits ++
      [⟨counters, if probe.log visits = [] then visit.first else visit.second⟩] := by
  have appended : probe.readings (visits ++ [visit]) =
      probe.readings visits ++ [(counters, visit)] := by
    simp [readings, read, Except.toOption]
  unfold log
  rw [appended]
  cases probe.readings visits with
  | nil => rfl
  | cons earliest later => simp

/-- A capture after a log is one of the four kinds, and which one is decided by the table, the log
and the clock. -/
theorem follows_capture (probe : Probe) (log : List Entry) (visit : Visit C) :
    Follows probe log visit ((probe.remembering log).capture visit.table visit.clock) := by
  cases read : probe.readCounters visit.table with
  | error fault =>
    rw [capture_unread (by simpa using read)]
    exact .unread read
  | ok counters =>
    have table := (readCounters_remembering probe log visit.table).trans read
    cases newest : log.getLast? with
    | none =>
      have fresh : log = [] := List.getLast?_eq_none_iff.mp newest
      have idle : (probe.remembering log).stopwatch.startedAt = none := by simp [remembering, newest]
      have delta : ((probe.remembering log).replaceCounters counters).1 = .zero := by
        simp [replaceCounters, remembering, newest]
      rw [capture_read table (Time.Stopwatch.lap_unstarted idle visit.reads), delta, conclude_first]
      have next := remembering_concat probe log ⟨counters, visit.first⟩
      exact next ▸ .first read fresh
    | some previous =>
      have running : (probe.remembering log).stopwatch.startedAt = some previous.restartedAt := by
        simp [remembering, newest]
      have delta : ((probe.remembering log).replaceCounters counters).1 =
          counters.between previous.counters := by
        simp [replaceCounters, remembering, newest]
      have next := remembering_concat probe log ⟨counters, visit.second⟩
      rw [capture_read table (Time.Stopwatch.lap_started running visit.reads visit.rereads), delta]
      by_cases still : visit.first.nanos ≤ previous.restartedAt.nanos
      · have none_passed : (visit.first.since previous.restartedAt).nanos = 0 :=
          Nat.sub_eq_zero_of_le still
        rw [conclude_stalled _ _ none_passed]
        exact next ▸ .stalled read newest still
      · have passed : 0 < (visit.first.since previous.restartedAt).nanos :=
          Nat.sub_pos_of_lt (Nat.not_le.mp still)
        obtain ⟨sample, value, concluded⟩ := conclude_elapsed (probe.remembering log)
          (counters.between previous.counters) passed
        rw [concluded]
        have bytes : (counters.between previous.counters).get (probe.remembering log).direction =
            Counters.distance (counters.get probe.direction)
              (previous.counters.get probe.direction) := Counters.get_between ..
        simp only [measure, bytes] at value ⊢
        rw [← value]
        exact next ▸ .measured read newest (Counters.toNat_distance ..) rfl passed value

/-- Table, log and clock leave a capture no choice. -/
theorem Follows.unique {probe : Probe} {log : List Entry} {visit : Visit C}
    {one two : Capture × Probe × C} (first : Follows probe log visit one)
    (second : Follows probe log visit two) : one = two := by
  cases first with
  | unread failed =>
    cases second with
    | unread failed' => cases failed.symm.trans failed'; rfl
    | first read | stalled read | measured read => cases failed.symm.trans read
  | first read fresh =>
    cases second with
    | unread failed => cases read.symm.trans failed
    | first read' => cases read.symm.trans read'; rfl
    | stalled _ newest | measured _ newest => simp [fresh] at newest
  | stalled read newest still =>
    cases second with
    | unread failed => cases read.symm.trans failed
    | first _ fresh => simp [fresh] at newest
    | stalled read' => cases read.symm.trans read'; rfl
    | measured _ newest' _ passed positive =>
      cases newest.symm.trans newest'
      omega
  | @measured counters previous delta elapsed sample read newest moved passed positive share =>
    cases second with
    | unread failed => cases read.symm.trans failed
    | first _ fresh => simp [fresh] at newest
    | stalled _ newest' still =>
      cases newest.symm.trans newest'
      omega
    | @measured _ _ delta' elapsed' sample' read' newest' moved' passed' _ share' =>
      cases read.symm.trans read'
      cases newest.symm.trans newest'
      obtain rfl : delta = delta' := UInt64.toNat_inj.mp (moved.trans moved'.symm)
      obtain rfl : elapsed = elapsed' := Time.Duration.ext (passed.trans passed'.symm)
      obtain rfl : sample = sample' := Sample.ext (share.trans share'.symm)
      rfl

def after (probe : Probe) (visits : List (Visit C)) : Probe :=
  visits.foldl (fun probe visit => (probe.capture visit.table visit.clock).2.1) probe

theorem length_run (probe : Probe) (visits : List (Visit C)) :
    (probe.run visits).length = visits.length := by
  induction visits generalizing probe with
  | nil => rfl
  | cons visit rest ih => simp [run, ih]

theorem getElem?_run (probe : Probe) (visits : List (Visit C)) (place : Nat) :
    (probe.run visits)[place]? = visits[place]?.map fun visit =>
      (probe.after (visits.take place)).capture visit.table visit.clock := by
  induction visits generalizing probe place with
  | nil => rfl
  | cons visit rest ih =>
    cases place with
    | zero => rfl
    | succ place => simpa [run, after] using ih _ place

theorem remembering_log_concat (probe : Probe) (visits : List (Visit C)) (visit : Visit C) :
    ((probe.remembering (probe.log visits)).capture visit.table visit.clock).2.1 =
      probe.remembering (probe.log (visits ++ [visit])) := by
  have follows := follows_capture probe (probe.log visits) visit
  generalize (probe.remembering (probe.log visits)).capture visit.table visit.clock = ended
    at follows ⊢
  have used {previous : Entry} (newest : (probe.log visits).getLast? = some previous) :
      probe.log visits ≠ [] := by
    intro fresh
    simp [fresh] at newest
  cases follows with
  | unread failed => rw [log_concat_unread failed]
  | first read fresh => rw [log_concat_read read, if_pos fresh]
  | stalled read newest => rw [log_concat_read read, if_neg (used newest)]
  | measured read newest => rw [log_concat_read read, if_neg (used newest)]

/-- After any run a fresh probe remembers the newest entry of its log. -/
theorem after_eq_remembering {direction : Direction} {ceiling : Ceiling} {config : Config}
    {probe : Probe} (made : Probe.of direction ceiling config = .ok probe)
    (visits : List (Visit C)) : probe.after visits = probe.remembering (probe.log visits) := by
  induction visits using List.reverseRecOn with
  | nil =>
    obtain ⟨positive, rfl⟩ := of_eq_ok made
    rfl
  | append_singleton earlier visit ih =>
    rw [← remembering_log_concat, ← ih]
    simp [after]

/-- Every capture of a run of a fresh probe comes to what the log of the captures before it says,
and to nothing else. -/
theorem run_follows_log {direction : Direction} {ceiling : Ceiling} {config : Config}
    {probe : Probe} (made : Probe.of direction ceiling config = .ok probe)
    (visits : List (Visit C)) :
    (probe.run visits).length = visits.length ∧
      ∀ (place : Nat) (visit : Visit C), visits[place]? = some visit →
        ∀ ended, (probe.run visits)[place]? = some ended ↔
          Follows probe (probe.log (visits.take place)) visit ended := by
  refine ⟨length_run probe visits, ?_⟩
  intro place visit found ended
  have follows := follows_capture probe (probe.log (visits.take place)) visit
  rw [getElem?_run, found, after_eq_remembering made, Option.map_some, Option.some_inj]
  constructor
  · intro same
    exact same ▸ follows
  · intro other
    exact follows.unique other

/-- A table that is missing, then one with counters, then the same counters a second later. -/
def steadyVisits : List (Visit Time.Clock) :=
  let table := File.Content.text "a\nb\neth0: 5 0 0 0 0 0 0 0 7 0\n"
  let visit (content : File.Content) (clock : Time.Clock) (lasts : clock.failsAfter = none) :
      Visit Time.Clock :=
    { table := content, clock, first := clock.now, second := clock.now.add clock.step
      reads := by simp [Time.Ticker.read, Time.Clock.read, lasts]
      rereads := by simp [Time.Ticker.read, Time.Clock.read, lasts] }
  [visit .missing .steady rfl, visit table .steady rfl,
    visit table { now := .ofParts 1 0, step := .ofNanos 1 } rfl]

theorem run_follows_log_steadyVisits :
    ∃ (probe : Probe) (visit : Visit Time.Clock),
      Probe.of .received ⟨80, by decide, by decide⟩ {} = .ok probe ∧
        steadyVisits[2]? = some visit ∧ (probe.run steadyVisits).length = 3 ∧
          ∀ ended, (probe.run steadyVisits)[2]? = some ended ↔
            Follows probe (probe.log (steadyVisits.take 2)) visit ended := by
  have made : Probe.of .received ⟨80, by decide, by decide⟩ {} = .ok _ := dif_pos (by decide)
  have follows := run_follows_log made steadyVisits
  exact ⟨_, _, made, rfl, follows.1, follows.2 2 _ rfl⟩

end Probe

end WorkerVitals.Network
