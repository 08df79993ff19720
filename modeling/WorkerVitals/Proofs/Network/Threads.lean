import Mathlib.Data.List.Induction
import WorkerVitals.Proofs.Network.Capture
import WorkerVitals.Proofs.Time.Recorded

/-! Threads that capture one probe, each a number of times. The sections of their captures come in
any order: between two sections of one thread the others go on, and the table and the clock are
whatever they are when a section meets them. A run keeps the captures that came to an end, with the
readings that their laps took. -/
namespace WorkerVitals.Network

variable {C : Type} [Time.Ticker C]

/-- What the last section of a capture can come to, with what the reads of its lap gave. -/
inductive Probe.Finishes (probe : Probe) (delta : Counters) :
    Capture → Probe → List (Option Time.Duration) → Prop where
  | unread : Finishes probe delta { outcome := none } probe [none]
  | started (now : Time.Duration) (idle : probe.stopwatch.startedAt = none) :
      Finishes probe delta (probe.conclude delta none) { probe with stopwatch := ⟨some now⟩ }
        [some now]
  | unwound (first : Time.Duration) :
      Finishes probe delta { outcome := none } probe [some first, none]
  | measured (start first second : Time.Duration)
      (running : probe.stopwatch.startedAt = some start) :
      Finishes probe delta (probe.conclude delta (some (first.since start)))
        { probe with stopwatch := ⟨some second⟩ } [some first, some second]

theorem Probe.finishes_finish (probe : Probe) (delta : Counters) (clock : C) :
    probe.Finishes delta (probe.finish delta clock).1 (probe.finish delta clock).2.1
      (probe.stopwatch.lapReadings clock) := by
  have lapped := probe.stopwatch.lapped_lap clock
  unfold Probe.finish
  generalize probe.stopwatch.lapReadings clock = readings at lapped ⊢
  generalize probe.stopwatch.lap clock = lap at lapped ⊢
  obtain ⟨ended, after⟩ := lap
  cases lapped with
  | unread => exact .unread
  | started now idle => exact .started now idle
  | unwound first => exact .unwound first
  | measured start first second running => exact .measured start first second running

/-- How far a capture under way has come. -/
inductive Midway where
  | read (counters : Counters)
  | replaced (delta : Counters)

/-- A thread makes its captures one after the other. -/
structure Thread where
  left : Nat
  midway : Option Midway := none

/-- A capture that came to an end on a thread. Of its lap there are the start that it found and the
readings that it took; a capture that did not read the table has none. -/
structure Ended where
  thread : Nat
  capture : Capture
  startedAt : Option Time.Duration := none
  readings : List (Option Time.Duration) := []

/-- One section of a thread, with the table and the clock that it meets. -/
structure Slice (C : Type) where
  thread : Nat
  table : File.Content
  clock : C

/-- A probe under capture by threads, and the captures that ended, the oldest first. -/
structure Threads where
  probe : Probe
  threads : List Thread
  ended : List Ended := []

namespace Threads

def start (probe : Probe) (captures : List Nat) : Threads :=
  { probe, threads := captures.map fun left => { left } }

/-- The next section of a thread. A table that is not read ends the capture at once. -/
def advance (state : Threads) (slice : Slice C) (thread : Thread) : Threads :=
  match thread.midway, thread.left with
  | none, 0 => state
  | none, left + 1 =>
    match state.probe.readCounters slice.table with
    | .error fault =>
      { state with
        threads := state.threads.set slice.thread { left }
        ended := state.ended ++
          [{ thread := slice.thread, capture := { outcome := some (.error fault) } }] }
    | .ok counters =>
      { state with
        threads := state.threads.set slice.thread { left, midway := some (.read counters) } }
  | some (.read counters), left =>
    let (delta, probe) := state.probe.replaceCounters counters
    { state with
      probe
      threads := state.threads.set slice.thread { left, midway := some (.replaced delta) } }
  | some (.replaced delta), left =>
    let (capture, probe, _) := state.probe.finish delta slice.clock
    { probe
      threads := state.threads.set slice.thread { left }
      ended := state.ended ++
        [{ thread := slice.thread
           capture
           startedAt := state.probe.stopwatch.startedAt
           readings := state.probe.stopwatch.lapReadings slice.clock }] }

/-- One section of the thread whose turn it is; without such a thread nothing happens. -/
def step (state : Threads) (slice : Slice C) : Threads :=
  match state.threads[slice.thread]? with
  | none => state
  | some thread => state.advance slice thread

def run (state : Threads) (slices : List (Slice C)) : Threads := slices.foldl step state

def readings (state : Threads) : List (Option Time.Duration) :=
  state.ended.flatMap Ended.readings

def times (state : Threads) : List Time.Duration := state.readings.reduceOption

/-- All threads have made their captures. -/
def Finished (state : Threads) : Prop :=
  ∀ thread ∈ state.threads, thread.left = 0 ∧ thread.midway = none

/-- What one section can do. -/
inductive Advances (state : Threads) (slice : Slice C) : Threads → Prop where
  | rests (through : ∀ thread, state.threads[slice.thread]? = some thread →
      thread.left = 0 ∧ thread.midway = none) : Advances state slice state
  | unread {left : Nat} {fault : Fault}
      (waits : state.threads[slice.thread]? = some { left := left + 1 })
      (failed : state.probe.readCounters slice.table = .error fault) :
      Advances state slice
        { state with
          threads := state.threads.set slice.thread { left }
          ended := state.ended ++
            [{ thread := slice.thread, capture := { outcome := some (.error fault) } }] }
  | read {left : Nat} {counters : Counters}
      (waits : state.threads[slice.thread]? = some { left := left + 1 })
      (shown : state.probe.readCounters slice.table = .ok counters) :
      Advances state slice
        { state with
          threads := state.threads.set slice.thread { left, midway := some (.read counters) } }
  | replace {left : Nat} {counters : Counters}
      (holds : state.threads[slice.thread]? = some { left, midway := some (.read counters) }) :
      Advances state slice
        { state with
          probe := (state.probe.replaceCounters counters).2
          threads := state.threads.set slice.thread
            { left, midway := some (.replaced (state.probe.replaceCounters counters).1) } }
  | finish {left : Nat} {delta : Counters} {capture : Capture} {probe : Probe}
      {readings : List (Option Time.Duration)}
      (holds : state.threads[slice.thread]? = some { left, midway := some (.replaced delta) })
      (finishes : state.probe.Finishes delta capture probe readings) :
      Advances state slice
        { probe
          threads := state.threads.set slice.thread { left }
          ended := state.ended ++
            [{ thread := slice.thread, capture, startedAt := state.probe.stopwatch.startedAt
               readings }] }

theorem advances_step (state : Threads) (slice : Slice C) :
    Advances state slice (state.step slice) := by
  unfold step
  cases turn : state.threads[slice.thread]? with
  | none => exact .rests fun thread there => by cases turn.symm.trans there
  | some thread =>
    obtain ⟨left, midway⟩ := thread
    cases midway with
    | none =>
      cases left with
      | zero => exact .rests fun thread there => by cases turn.symm.trans there; exact ⟨rfl, rfl⟩
      | succ left =>
        cases read : state.probe.readCounters slice.table with
        | error fault => simpa only [advance, read] using .unread turn read
        | ok counters => simpa only [advance, read] using .read turn read
    | some midway =>
      cases midway with
      | read counters => simpa only [advance] using .replace turn
      | replaced delta =>
        simpa only [advance] using
          .finish turn (state.probe.finishes_finish delta slice.clock)

@[simp] theorem run_concat (state : Threads) (slices : List (Slice C)) (slice : Slice C) :
    state.run (slices ++ [slice]) = (state.run slices).step slice := by
  simp [run]

/-- The three sections of a capture with nothing in between are a capture. -/
theorem run_undisturbed {state : Threads} {slice : Slice C} {left : Nat} {counters : Counters}
    (waits : state.threads[slice.thread]? = some { left := left + 1 })
    (shown : state.probe.readCounters slice.table = .ok counters) :
    state.run [slice, slice, slice] =
      { probe := (state.probe.capture slice.table slice.clock).2.1
        threads := state.threads.set slice.thread { left }
        ended := state.ended ++
          [{ thread := slice.thread
             capture := (state.probe.capture slice.table slice.clock).1
             startedAt := state.probe.stopwatch.startedAt
             readings := state.probe.stopwatch.lapReadings slice.clock }] } := by
  obtain ⟨within, _⟩ := List.getElem?_eq_some_iff.mp waits
  have started : state.step slice =
      { state with
        threads := state.threads.set slice.thread { left, midway := some (.read counters) } } := by
    simp only [step, waits, advance, shown]
  have replaced : (state.step slice).step slice =
      { state with
        probe := (state.probe.replaceCounters counters).2
        threads := state.threads.set slice.thread
          { left, midway := some (.replaced (state.probe.replaceCounters counters).1) } } := by
    rw [started]
    simp [step, advance, within]
  calc state.run [slice, slice, slice]
      = ((state.step slice).step slice).step slice := rfl
    _ = _ := by
      rw [replaced, Probe.capture_sections, shown]
      simp [step, advance, within]

theorem readings_step (state : Threads) (slice : Slice C) :
    ∃ taken, (state.step slice).readings = state.readings ++ taken := by
  have advances := advances_step state slice
  generalize state.step slice = after at advances ⊢
  cases advances with
  | rests | read | replace => exact ⟨[], (List.append_nil _).symm⟩
  | unread => exact ⟨[], by simp [readings]⟩
  | @finish _ _ _ _ taken => exact ⟨taken, by simp [readings]⟩

theorem mem_readings_step {state : Threads} {reading : Option Time.Duration}
    (member : reading ∈ state.readings) (slice : Slice C) :
    reading ∈ (state.step slice).readings := by
  obtain ⟨taken, recorded⟩ := readings_step state slice
  rw [recorded]
  exact List.mem_append_left _ member

theorem pairwise_times_of_step {state : Threads} {slice : Slice C}
    {inOrder : Time.Duration → Time.Duration → Prop}
    (ordered : (state.step slice).times.Pairwise inOrder) : state.times.Pairwise inOrder := by
  obtain ⟨taken, recorded⟩ := readings_step state slice
  rw [times, recorded, List.reduceOption_append] at ordered
  exact (List.pairwise_append.mp ordered).1

theorem times_concat (state : Threads) (probe : Probe) (threads : List Thread) (last : Ended) :
    times { probe, threads, ended := state.ended ++ [last] } =
      state.times ++ last.readings.reduceOption := by
  simp [times, readings, List.reduceOption_append]

/-- The captures that a thread has yet to bring to an end. -/
def owed (state : Threads) (thread : Nat) : Nat :=
  state.threads[thread]?.elim 0 fun thread => thread.left + thread.midway.elim 0 fun _ => 1

def completed (state : Threads) (thread : Nat) : Nat :=
  state.ended.countP fun ended => ended.thread = thread

/-- A section brings a capture to an end or leaves the thread as many to make as before. -/
theorem completed_add_owed_step (state : Threads) (slice : Slice C) (thread : Nat) :
    (state.step slice).completed thread + (state.step slice).owed thread =
      state.completed thread + state.owed thread := by
  have advances := advances_step state slice
  generalize state.step slice = after at advances ⊢
  by_cases own : slice.thread = thread
  · cases advances with
    | rests => rfl
    | unread turn | finish turn =>
      obtain ⟨within, found⟩ := List.getElem?_eq_some_iff.mp turn
      subst own
      simp only [completed, owed]
      simp [within, found]
      omega
    | read turn | replace turn =>
      obtain ⟨within, found⟩ := List.getElem?_eq_some_iff.mp turn
      subst own
      simp [completed, owed, within, found]
  · cases advances with
    | rests => rfl
    | unread turn | read turn | replace turn | finish turn => simp [completed, owed, own]

theorem completed_add_owed_run (state : Threads) (slices : List (Slice C)) (thread : Nat) :
    (state.run slices).completed thread + (state.run slices).owed thread =
      state.completed thread + state.owed thread := by
  induction slices using List.reverseRecOn with
  | nil => rfl
  | append_singleton earlier slice ih => rw [run_concat, completed_add_owed_step, ih]

/-- Threads that made their captures have brought each of them to an end. -/
theorem completed_run_start {probe : Probe} {captures : List Nat} {slices : List (Slice C)}
    (finished : ((start probe captures).run slices).Finished) (thread : Nat) :
    ((start probe captures).run slices).completed thread = captures[thread]?.getD 0 := by
  have kept := completed_add_owed_run (start probe captures) slices thread
  have none_owed : ((start probe captures).run slices).owed thread = 0 := by
    unfold owed
    cases found : ((start probe captures).run slices).threads[thread]? with
    | none => rfl
    | some thread =>
      obtain ⟨left, midway⟩ := finished _ (List.mem_of_getElem? found)
      simp [left, midway]
  have none_completed : (start probe captures).completed thread = 0 := rfl
  have all_owed : (start probe captures).owed thread = captures[thread]?.getD 0 := by
    cases found : captures[thread]? <;> simp [owed, start, found]
  omega

/-- The sections that a thread has yet to go through, if it reads every table. -/
def ahead (state : Threads) (thread : Nat) : Nat :=
  state.threads[thread]?.elim 0 fun thread => 3 * thread.left + match thread.midway with
    | none => 0
    | some (.read _) => 2
    | some (.replaced _) => 1

theorem ahead_step (state : Threads) (slice : Slice C) (thread : Nat) :
    (state.step slice).ahead thread ≤
      state.ahead thread - if slice.thread = thread then 1 else 0 := by
  have advances := advances_step state slice
  generalize state.step slice = after at advances ⊢
  by_cases own : slice.thread = thread
  · subst own
    cases advances with
    | rests through =>
      cases turn : state.threads[slice.thread]? with
      | none => simp [ahead, turn]
      | some thread =>
        obtain ⟨left, midway⟩ := through thread turn
        simp [ahead, turn, left, midway]
    | unread turn | read turn =>
      obtain ⟨within, found⟩ := List.getElem?_eq_some_iff.mp turn
      simp only [ahead]
      simp [within, found]
      omega
    | replace turn | finish turn =>
      obtain ⟨within, found⟩ := List.getElem?_eq_some_iff.mp turn
      simp [ahead, within, found]
  · cases advances with
    | rests => simp [own]
    | unread turn | read turn | replace turn | finish turn => simp [ahead, own]

theorem ahead_run (state : Threads) (slices : List (Slice C)) (thread : Nat) :
    (state.run slices).ahead thread ≤
      state.ahead thread - slices.countP fun slice => slice.thread = thread := by
  induction slices using List.reverseRecOn with
  | nil => exact Nat.le_refl _
  | append_singleton earlier slice ih =>
    have last := ahead_step (state.run earlier) slice thread
    rw [run_concat, List.countP_append, List.countP_singleton]
    simp only [decide_eq_true_eq] at last ⊢
    omega

/-- Three sections for each of its captures, whenever they come, bring a thread to its end. -/
theorem finished_run_start {probe : Probe} {captures : List Nat} {slices : List (Slice C)}
    (turns : ∀ thread, 3 * captures[thread]?.getD 0 ≤
      slices.countP fun slice => slice.thread = thread) :
    ((start probe captures).run slices).Finished := by
  intro thread member
  obtain ⟨place, found⟩ := List.mem_iff_getElem?.mp member
  have left := ahead_run (start probe captures) slices place
  have all_ahead : (start probe captures).ahead place = 3 * captures[place]?.getD 0 := by
    cases found : captures[place]? <;> simp [ahead, start, found]
  have none_ahead : ((start probe captures).run slices).ahead place = 0 := by
    have enough := turns place
    omega
  obtain ⟨left, midway⟩ := thread
  rcases midway with _ | _ | _ <;> simp [ahead, found] at none_ahead ⊢
  exact none_ahead

end Threads

end WorkerVitals.Network
