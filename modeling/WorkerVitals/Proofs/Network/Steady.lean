import WorkerVitals.Proofs.Network.Run
import WorkerVitals.Proofs.Network.Threads

/-! Threads that capture one probe while nothing moves. Every capture gives zero, also when one
finds no counters yet and another finds no start: whatever is stored is what the table shows, and
the start is the newest reading. The next capture measures from there. -/
namespace WorkerVitals.Network

variable {C : Type} [Time.Ticker C]

theorem Counters.between_self (counters : Counters) : counters.between counters = .zero := by
  have still (value : UInt64) : distance value value = 0 := by simp [distance]
  simp only [between, still, zero]

theorem Probe.replaceCounters_unchanged {probe : Probe} {counters : Counters}
    (stored : ∀ found ∈ probe.lastCounters, found = counters) :
    probe.replaceCounters counters = (.zero, { probe with lastCounters := some counters }) := by
  unfold Probe.replaceCounters
  cases found : probe.lastCounters with
  | none => rfl
  | some previous =>
    obtain rfl := stored previous found
    simp only [Counters.between_self]

theorem Probe.capture_unchanged {probe : Probe} {log : List Entry} {newest : Entry}
    {visit : Visit C} (read : probe.readCounters visit.table = .ok newest.counters)
    (passed : newest.restartedAt.nanos < visit.first.nanos) :
    ((probe.remembering (log ++ [newest])).capture visit.table visit.clock).1.outcome =
      some (.ok .zero) := by
  have table := (readCounters_remembering probe (log ++ [newest]) visit.table).trans read
  have running : (probe.remembering (log ++ [newest])).stopwatch.startedAt =
      some newest.restartedAt := by simp [remembering]
  have same : ∀ found ∈ (probe.remembering (log ++ [newest])).lastCounters,
      found = newest.counters := by
    simp [remembering]
  rw [capture_read table (Time.Stopwatch.lap_started running visit.reads visit.rereads),
    replaceCounters_unchanged same, conclude_idle _ (Nat.sub_pos_of_lt passed)]

/-- A capture under way has read the counters, or has found that nothing moved and left them
stored. -/
def Midway.Still (counters : Counters) (stored : Option Counters) : Midway → Prop
  | .read found => found = counters
  | .replaced delta => delta = .zero ∧ stored = some counters

theorem Midway.Still.store {counters : Counters} {stored : Option Counters} {midway : Midway}
    (still : midway.Still counters stored) : midway.Still counters (some counters) := by
  cases midway with
  | read found => exact still
  | replaced delta => exact ⟨still.1, rfl⟩

namespace Threads

/-- What the sections of captures keep true while the table shows the same counters. -/
structure Steady (probe : Probe) (counters : Counters) (state : Threads) : Prop where
  kept : state.probe =
    { probe with lastCounters := state.probe.lastCounters, stopwatch := ⟨state.times.getLast?⟩ }
  stored : ∀ found ∈ state.probe.lastCounters, found = counters
  held : ∀ thread ∈ state.threads, ∀ midway ∈ thread.midway,
    midway.Still counters state.probe.lastCounters
  idle : ∀ ended ∈ state.ended, ended.capture.outcome = some (.ok .zero)
  used : state.ended ≠ [] →
    state.probe.lastCounters = some counters ∧ ∃ last, state.times.getLast? = some last

theorem steady_start {direction : Direction} {ceiling : Ceiling} {config : Config} {probe : Probe}
    (made : Probe.of direction ceiling config = .ok probe) (captures : List Nat)
    (counters : Counters) : Steady probe counters (start probe captures) := by
  obtain ⟨positive, rfl⟩ := Probe.of_eq_ok made
  constructor
  case kept => rfl
  case stored => rintro found ⟨⟩
  case held =>
    intro thread member midway under_way
    obtain ⟨left, -, rfl⟩ := List.mem_map.mp member
    cases under_way
  case idle => rintro ended ⟨⟩
  case used => exact fun started => absurd rfl started

theorem Steady.readCounters {probe : Probe} {counters : Counters} {state : Threads}
    (steady : Steady probe counters state) (table : File.Content) :
    state.probe.readCounters table = probe.readCounters table := by
  rw [steady.kept]
  cases table <;> rfl

theorem Steady.held_set {probe : Probe} {counters : Counters} {state : Threads}
    (steady : Steady probe counters state) {stored : Option Counters}
    (keeps : ∀ midway : Midway, midway.Still counters state.probe.lastCounters →
      midway.Still counters stored)
    (place : Nat) (thread : Thread) (new : ∀ midway ∈ thread.midway, midway.Still counters stored) :
    ∀ other ∈ state.threads.set place thread, ∀ midway ∈ other.midway,
      midway.Still counters stored := by
  intro other member midway under_way
  rcases List.mem_or_eq_of_mem_set member with earlier | rfl
  · exact keeps midway (steady.held other earlier midway under_way)
  · exact new midway under_way

/-- A capture that found nothing moved ends with zero, and its newest reading is the new start. -/
theorem Steady.settle {probe : Probe} {counters : Counters} {state : Threads}
    (steady : Steady probe counters state) (stored : state.probe.lastCounters = some counters)
    (place : Nat) {left : Nat} {ended : Ended} {now : Time.Duration}
    (zero : ended.capture.outcome = some (.ok .zero))
    (newest : ended.readings.reduceOption.getLast? = some now) :
    Steady probe counters
      { probe := { state.probe with stopwatch := ⟨some now⟩ }
        threads := state.threads.set place { left }
        ended := state.ended ++ [ended] } := by
  have last : (state.times ++ ended.readings.reduceOption).getLast? = some now := by
    rw [List.getLast?_append, newest, Option.some_or]
  constructor
  case kept =>
    rw [times_concat, last, steady.kept]
  case stored => exact steady.stored
  case held => exact steady.held_set (fun _ still => still) place { left } (by rintro midway ⟨⟩)
  case idle =>
    exact List.forall_mem_append.mpr ⟨steady.idle, List.forall_mem_singleton.mpr zero⟩
  case used =>
    intro _
    rw [times_concat]
    exact ⟨stored, now, last⟩

/-- Each section keeps it, as long as no read of the clock fails and each is later than the one
before. -/
theorem Steady.step {probe : Probe} {counters : Counters} {state : Threads} {slice : Slice C}
    (steady : Steady probe counters state)
    (unchanged : probe.readCounters slice.table = .ok counters)
    (answered : none ∉ (state.step slice).readings)
    (later : (state.step slice).times.Pairwise fun earlier later => earlier.nanos < later.nanos) :
    Steady probe counters (state.step slice) := by
  have shown := (steady.readCounters slice.table).trans unchanged
  have advances := advances_step state slice
  generalize state.step slice = after at advances answered later ⊢
  cases advances with
  | rests => exact steady
  | unread _ failed => cases shown.symm.trans failed
  | @read left found turn read =>
    cases shown.symm.trans read
    refine { steady with
      held := steady.held_set (fun _ still => still) _ { left, midway := some (.read counters) } ?_ }
    rintro midway ⟨⟩
    exact rfl
  | @replace left found turn =>
    obtain rfl : found = counters := steady.held _ (List.mem_of_getElem? turn) _ rfl
    rw [Probe.replaceCounters_unchanged steady.stored]
    refine
      { kept := by rw [steady.kept]; rfl
        stored := by rintro last ⟨⟩; rfl
        held := steady.held_set (fun _ still => still.store) _
          { left, midway := some (.replaced .zero) } ?_
        idle := steady.idle
        used := fun started => ⟨rfl, (steady.used started).2⟩ }
    rintro midway ⟨⟩
    exact ⟨rfl, rfl⟩
  | @finish left delta capture lapped taken turn finishes =>
    obtain ⟨rfl, stored⟩ := steady.held _ (List.mem_of_getElem? turn) _ rfl
    rw [times_concat] at later
    cases finishes with
    | unread | unwound => simp [readings] at answered
    | started now idle =>
      exact steady.settle stored _ (congrArg Capture.outcome (state.probe.conclude_first)) rfl
    | measured start first second running =>
      have newest : state.times.getLast? = some start := by
        rw [← running]
        exact congrArg (·.stopwatch.startedAt) steady.kept.symm
      have passed : start.nanos < first.nanos :=
        (List.pairwise_append.mp later).2.2 start (List.mem_of_getLast? newest) first (by simp)
      exact steady.settle stored _
        (congrArg Capture.outcome (state.probe.conclude_idle (Nat.sub_pos_of_lt passed))) rfl

theorem steady_run {direction : Direction} {ceiling : Ceiling} {config : Config} {probe : Probe}
    (made : Probe.of direction ceiling config = .ok probe) (captures : List Nat)
    {counters : Counters} {slices : List (Slice C)}
    (unchanged : ∀ slice ∈ slices, probe.readCounters slice.table = .ok counters)
    (answered : none ∉ ((start probe captures).run slices).readings)
    (later : ((start probe captures).run slices).times.Pairwise
      fun earlier later => earlier.nanos < later.nanos) :
    Steady probe counters ((start probe captures).run slices) := by
  induction slices using List.reverseRecOn with
  | nil => exact steady_start made captures counters
  | append_singleton earlier slice ih =>
    rw [run_concat] at answered later ⊢
    have before := ih (fun slice member => unchanged slice (List.mem_append_left _ member))
      (fun failed => answered (mem_readings_step failed slice)) (pairwise_times_of_step later)
    exact before.step (unchanged slice (by simp)) answered later

/-- What is remembered then are the counters of the table and the newest reading. -/
theorem Steady.remembering {probe : Probe} {counters : Counters} {state : Threads}
    (steady : Steady probe counters state) {last : Time.Duration}
    (newest : state.times.getLast? = some last) :
    state.probe = probe.remembering [⟨counters, last⟩] := by
  have started : state.ended ≠ [] := by
    intro unused
    simp [times, readings, unused] at newest
  rw [steady.kept, (steady.used started).1, newest]
  rfl

/-- However the sections of captures of a fresh probe are interleaved, each capture gives zero while
the table shows the same counters and the clock goes on. When all threads have made their captures,
the next capture counts from these counters and from the newest reading, and one that follows it
with nothing moved gives zero again. -/
theorem unchanged_run_zero {direction : Direction} {ceiling : Ceiling} {config : Config}
    {probe : Probe} (made : Probe.of direction ceiling config = .ok probe) (captures : List Nat)
    {counters : Counters} {slices : List (Slice C)}
    (unchanged : ∀ slice ∈ slices, probe.readCounters slice.table = .ok counters)
    (answered : none ∉ ((start probe captures).run slices).readings)
    (later : ((start probe captures).run slices).times.Pairwise
      fun earlier later => earlier.nanos < later.nanos) :
    let state := (start probe captures).run slices
    (∀ ended ∈ state.ended, ended.capture.outcome = some (.ok .zero)) ∧
      (state.Finished →
        (∀ thread, state.completed thread = captures[thread]?.getD 0) ∧
          (0 < captures.sum → ∃ last, state.times.getLast? = some last) ∧
          ∀ (last : Time.Duration) (further again : Visit C) (found : Counters),
            state.times.getLast? = some last →
            last.nanos < further.first.nanos → further.second.nanos < again.first.nanos →
            probe.readCounters further.table = .ok found → again.table = further.table →
            ∃ (sample : Sample) (delta : UInt64) (elapsed : Time.Duration),
              (state.probe.capture further.table further.clock).1.outcome = some (.ok sample) ∧
                sample.value = capped
                  (delta.toFloat / 1048576 / elapsed.toFloat / config.maxBandwidthMbps * 100) ∧
                delta.toNat = (((found.get direction).toNat : Int) -
                  (counters.get direction).toNat).natAbs ∧
                elapsed.nanos = further.first.nanos - last.nanos ∧
                ((state.probe.capture further.table further.clock).2.1.capture again.table
                  again.clock).1.outcome = some (.ok .zero)) := by
  intro state
  have steady : Steady probe counters state := steady_run made captures unchanged answered later
  refine ⟨steady.idle, fun finished => ⟨completed_run_start finished, ?_, ?_⟩⟩
  · intro some_captures
    obtain ⟨left, member, positive⟩ := List.sum_pos_iff_exists_pos_nat.mp some_captures
    obtain ⟨thread, found⟩ := List.mem_iff_getElem?.mp member
    have count := completed_run_start finished thread
    have started : state.ended ≠ [] := by
      intro unused
      have none_completed : state.completed thread = 0 := by simp [completed, unused]
      rw [none_completed, found, Option.getD_some] at count
      exact absurd positive (by omega)
    exact (steady.used started).2
  · intro last further again found newest passed passes read same
    have follows := probe.follows_capture [⟨counters, last⟩] further
    rw [← steady.remembering newest] at follows
    generalize state.probe.capture further.table further.clock = ended at follows ⊢
    cases follows with
    | unread failed => cases read.symm.trans failed
    | first _ fresh => cases fresh
    | stalled _ previous still =>
      cases previous
      exact absurd passed (Nat.not_lt.mpr still)
    | measured read' previous moved elapsed positive share =>
      cases previous
      cases read.symm.trans read'
      obtain ⟨_, rfl⟩ := Probe.of_eq_ok made
      refine ⟨_, _, _, rfl, share, moved, elapsed, ?_⟩
      exact Probe.capture_unchanged (same ▸ read) passes

/-- Two captures of one table. The one that finds no counters yet is not the one that finds no
start. -/
def crossed : List (Slice Time.Clock) :=
  let table := File.Content.text "a\nb\neth0: 5 0 0 0 0 0 0 0 7\n"
  [⟨0, table, .steady⟩, ⟨1, table, .steady⟩, ⟨0, table, .steady⟩, ⟨1, table, .steady⟩,
    ⟨1, table, .steady⟩, ⟨0, table, { now := .ofParts 1 0, step := .ofNanos 1 }⟩]

def atSecond (seconds : Nat) (table : File.Content) : Visit Time.Clock :=
  let clock : Time.Clock := { now := .ofParts seconds 0, step := .ofNanos 1 }
  { table, clock, first := clock.now, second := clock.now.add clock.step, reads := rfl
    rereads := rfl }

theorem unchanged_run_zero_crossed :
    let state := (start Probe.inbound [1, 1]).run crossed
    let further := atSecond 2 (.text "a\nb\neth0: 6 0 0 0 0 0 0 0 7\n")
    let again := atSecond 3 (.text "a\nb\neth0: 6 0 0 0 0 0 0 0 7\n")
    Probe.of .received Probe.inbound.ceiling {} = .ok Probe.inbound ∧
      state.Finished ∧ state.completed 0 = 1 ∧ state.completed 1 = 1 ∧
      (∀ ended ∈ state.ended, ended.capture.outcome = some (.ok .zero)) ∧
      ∃ (sample : Sample) (delta : UInt64) (elapsed : Time.Duration),
        (state.probe.capture further.table further.clock).1.outcome = some (.ok sample) ∧
          delta.toNat = 1 ∧ elapsed.nanos = 999999999 ∧
          sample.value = capped
            (delta.toFloat / 1048576 / elapsed.toFloat / Probe.inbound.config.maxBandwidthMbps
              * 100) ∧
          ((state.probe.capture further.table further.clock).2.1.capture again.table
            again.clock).1.outcome = some (.ok .zero) := by
  have made : Probe.of .received Probe.inbound.ceiling {} = .ok Probe.inbound := dif_pos (by decide)
  have unchanged : ∀ slice ∈ crossed, Probe.inbound.readCounters slice.table = .ok ⟨5, 7⟩ := by
    have read : Probe.inbound.readCounters (.text "a\nb\neth0: 5 0 0 0 0 0 0 0 7\n") =
        .ok ⟨5, 7⟩ := by cbv
    simp [crossed, read]
  have readings : ((start Probe.inbound [1, 1]).run crossed).readings =
      [some .zero, some (.ofParts 1 0), some (.ofParts 1 1)] := by decide +kernel
  have times : ((start Probe.inbound [1, 1]).run crossed).times =
      [.zero, .ofParts 1 0, .ofParts 1 1] := by
    rw [Threads.times, readings]
    rfl
  have finished : ((start Probe.inbound [1, 1]).run crossed).Finished := by
    apply finished_run_start
    rintro (_ | _ | thread)
    · decide
    · decide
    · exact Nat.zero_le _
  obtain ⟨idle, through⟩ := unchanged_run_zero made [1, 1] unchanged (by rw [readings]; simp)
    (by rw [times]; decide)
  obtain ⟨completed, -, next⟩ := through finished
  obtain ⟨sample, delta, elapsed, measured, share, moved, passed, zero⟩ :=
    next (.ofParts 1 1) (atSecond 2 (.text "a\nb\neth0: 6 0 0 0 0 0 0 0 7\n"))
      (atSecond 3 (.text "a\nb\neth0: 6 0 0 0 0 0 0 0 7\n")) ⟨6, 7⟩ (by rw [times]; rfl)
      (by decide) (by decide) (by cbv) rfl
  exact ⟨made, finished, completed 0, completed 1, idle, sample, delta, elapsed, measured, moved,
    passed, share, zero⟩

end Threads

end WorkerVitals.Network
