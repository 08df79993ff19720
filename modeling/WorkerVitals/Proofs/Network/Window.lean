import WorkerVitals.Proofs.Network.Threads

/-! The stretches of time that captures on several threads divide by. Each runs from the start that
a capture finds to its own first reading, and the reading that restarts the stopwatch comes after
it, in the same section. A capture that is unwound between the two has no rate, and leaves the
stretch to the next one; so no time is divided by twice. -/
namespace WorkerVitals.Network

variable {C : Type} [Time.Ticker C]

structure Window where
  opened : Time.Duration
  closed : Time.Duration
  deriving DecidableEq

def Window.length (window : Window) : Nat := window.closed.nanos - window.opened.nanos

/-- The stretch that a capture has measured, if it succeeded and did not go without a start. -/
def Ended.window? (ended : Ended) : Option Window :=
  match ended.capture.outcome, ended.startedAt, ended.readings with
  | some (.ok _), some opened, some closed :: _ => some { opened, closed }
  | _, _, _ => none

theorem window?_unstarted {ended : Ended} (idle : ended.startedAt = none) :
    ended.window? = none := by
  unfold Ended.window?
  split
  · rename_i running _
    cases idle.symm.trans running
  · rfl

theorem sum_length_le {windows : List Window} {first last : Nat} (ordered : first ≤ last)
    (apart : windows.Pairwise fun earlier later => earlier.closed.nanos ≤ later.opened.nanos)
    (within : ∀ window ∈ windows, first ≤ window.opened.nanos ∧
      window.opened.nanos ≤ window.closed.nanos ∧ window.closed.nanos ≤ last) :
    first + (windows.map Window.length).sum ≤ last := by
  induction windows generalizing first with
  | nil => exact ordered
  | cons window rest ih =>
    obtain ⟨before, apart⟩ := List.pairwise_cons.mp apart
    obtain ⟨opens, forward, closes⟩ := within window List.mem_cons_self
    have later := ih closes apart fun other member =>
      ⟨before other member, (within other (List.mem_cons_of_mem _ member)).2⟩
    rw [List.map_cons, List.sum_cons, Window.length]
    omega

namespace Threads

/-- The windows of the captures that ended, in the order in which they ended. -/
def windows (state : Threads) : List Window := state.ended.filterMap Ended.window?

/-- What a capture that succeeded has logged: it divided by one second when it found no start, and
by the length of its window otherwise. -/
def Told (ended : Ended) : Prop :=
  ∀ sample, ended.capture.outcome = some (.ok sample) →
    ∃ measured, ended.capture.events = [.utilization measured] ∧
      ((ended.startedAt = none ∧ measured.elapsedSecs = 1) ∨
        ∃ window, ended.window? = some window ∧
          measured.elapsedSecs = (window.closed.since window.opened).toFloat)

/-- What the sections of captures keep true while the clock does not go back. -/
structure Apart (state : Threads) : Prop where
  started : ∀ start ∈ state.probe.stopwatch.startedAt, start ∈ state.times
  apart : state.windows.Pairwise fun earlier later => earlier.closed.nanos ≤ later.opened.nanos
  within : ∀ window ∈ state.windows, window.opened ∈ state.times ∧ window.closed ∈ state.times ∧
    window.opened.nanos < window.closed.nanos
  passed : ∀ window ∈ state.windows, ∃ start ∈ state.probe.stopwatch.startedAt,
    window.closed.nanos ≤ start.nanos
  told : ∀ ended ∈ state.ended, Told ended

theorem windows_concat (state : Threads) (probe : Probe) (threads : List Thread) (last : Ended) :
    windows { probe, threads, ended := state.ended ++ [last] } =
      state.windows ++ last.window?.toList := by
  cases found : last.window? <;> simp [windows, found]

theorem apart_start {direction : Direction} {ceiling : Ceiling} {config : Config} {probe : Probe}
    (made : Probe.of direction ceiling config = .ok probe) (captures : List Nat) :
    Apart (start probe captures) := by
  obtain ⟨positive, rfl⟩ := Probe.of_eq_ok made
  constructor
  case started => rintro time ⟨⟩
  case apart => exact .nil
  case within => rintro window ⟨⟩
  case passed => rintro window ⟨⟩
  case told => rintro ended ⟨⟩

/-- The end of a capture without a window, which may have restarted the stopwatch with the newest
reading. -/
theorem Apart.unmeasured {state : Threads} (apart : Apart state) {probe : Probe}
    {threads : List Thread} {ended : Ended} (told : Told ended) (unmeasured : ended.window? = none)
    (restarted : probe.stopwatch = state.probe.stopwatch ∨
      ∃ now, probe.stopwatch.startedAt = some now ∧ now ∈ ended.readings.reduceOption ∧
        ∀ time ∈ state.times, time.nanos ≤ now.nanos) :
    Apart { probe, threads, ended := state.ended ++ [ended] } := by
  have same : windows { probe, threads, ended := state.ended ++ [ended] } = state.windows := by
    rw [windows_concat, unmeasured, Option.toList_none, List.append_nil]
  constructor
  case started =>
    intro start running
    rw [times_concat]
    rcases restarted with unchanged | ⟨now, restarted, member, -⟩
    · exact List.mem_append_left _ (apart.started start (unchanged ▸ running))
    · cases restarted.symm.trans running
      exact List.mem_append_right _ member
  case apart => exact same ▸ apart.apart
  case within =>
    intro window member
    obtain ⟨opened, closed, forward⟩ := apart.within window (same ▸ member)
    rw [times_concat]
    exact ⟨List.mem_append_left _ opened, List.mem_append_left _ closed, forward⟩
  case passed =>
    intro window member
    rcases restarted with unchanged | ⟨now, restarted, -, newest⟩
    · exact unchanged ▸ apart.passed window (same ▸ member)
    · exact ⟨now, restarted, newest _ (apart.within window (same ▸ member)).2.1⟩
  case told =>
    exact List.forall_mem_append.mpr ⟨apart.told, List.forall_mem_singleton.mpr told⟩

/-- The end of a capture with a window: it opens at the start that was found, after all earlier
windows, and the stopwatch is restarted after it closed. -/
theorem Apart.measured {state : Threads} (apart : Apart state) {probe : Probe}
    {threads : List Thread} {ended : Ended} (told : Told ended) {opened closed now : Time.Duration}
    (measured : ended.window? = some { opened, closed })
    (running : state.probe.stopwatch.startedAt = some opened)
    (readings : ended.readings = [some closed, some now])
    (restarted : probe.stopwatch.startedAt = some now) (forward : opened.nanos < closed.nanos)
    (onward : closed.nanos ≤ now.nanos) :
    Apart { probe, threads, ended := state.ended ++ [ended] } := by
  have windows : windows { probe, threads, ended := state.ended ++ [ended] } =
      state.windows ++ [⟨opened, closed⟩] := by
    rw [windows_concat, measured, Option.toList_some]
  have times : times { probe, threads, ended := state.ended ++ [ended] } =
      state.times ++ [closed, now] := by
    rw [times_concat, readings]
    rfl
  have earlier : ∀ window ∈ state.windows, window.closed.nanos ≤ opened.nanos := by
    intro window member
    obtain ⟨start, found, before⟩ := apart.passed window member
    cases running.symm.trans found
    exact before
  constructor
  case started =>
    intro start found
    cases restarted.symm.trans found
    rw [times]
    simp
  case apart =>
    rw [windows]
    refine List.pairwise_append.mpr ⟨apart.apart, List.pairwise_singleton .., ?_⟩
    intro window member newest same
    cases List.mem_singleton.mp same
    exact earlier window member
  case within =>
    intro window member
    rw [windows] at member
    rw [times]
    rcases List.mem_append.mp member with old | new
    · obtain ⟨opened, closed, forward⟩ := apart.within window old
      exact ⟨List.mem_append_left _ opened, List.mem_append_left _ closed, forward⟩
    · cases List.mem_singleton.mp new
      exact ⟨List.mem_append_left _ (apart.started opened running), by simp, forward⟩
  case passed =>
    intro window member
    rw [windows] at member
    refine ⟨now, restarted, ?_⟩
    rcases List.mem_append.mp member with old | new
    · have before := earlier window old
      omega
    · cases List.mem_singleton.mp new
      exact onward
  case told =>
    exact List.forall_mem_append.mpr ⟨apart.told, List.forall_mem_singleton.mpr told⟩

theorem Apart.failed {state : Threads} (apart : Apart state) {probe : Probe}
    {threads : List Thread} {ended : Ended}
    (failed : ∀ sample, ended.capture.outcome ≠ some (.ok sample))
    (restarted : probe.stopwatch = state.probe.stopwatch ∨
      ∃ now, probe.stopwatch.startedAt = some now ∧ now ∈ ended.readings.reduceOption ∧
        ∀ time ∈ state.times, time.nanos ≤ now.nanos) :
    Apart { probe, threads, ended := state.ended ++ [ended] } := by
  have unmeasured : ended.window? = none := by
    unfold Ended.window?
    split
    · rename_i succeeded _ _
      exact absurd succeeded (failed _)
    · rfl
  exact apart.unmeasured (fun sample succeeded => absurd succeeded (failed sample)) unmeasured
    restarted

/-- Each section keeps it, whether or not a read of the clock fails. -/
theorem Apart.step {state : Threads} (apart : Apart state) {slice : Slice C}
    (onward : (state.step slice).times.Pairwise fun earlier later => earlier.nanos ≤ later.nanos) :
    Apart (state.step slice) := by
  have advances := advances_step state slice
  generalize state.step slice = after at advances onward ⊢
  cases advances with
  | rests => exact apart
  | read => exact { apart with }
  | replace => exact { apart with }
  | unread => exact apart.failed nofun (.inl rfl)
  | @finish left delta capture lapped taken turn finishes =>
    rw [times_concat] at onward
    obtain ⟨-, ordered, later⟩ := List.pairwise_append.mp onward
    cases finishes with
    | unread | unwound => exact apart.failed nofun (.inl rfl)
    | started now idle =>
      have newest : ∀ time ∈ state.times, time.nanos ≤ now.nanos :=
        fun time member => later time member now (by simp)
      rw [idle]
      refine apart.unmeasured ?_ (window?_unstarted rfl) (.inr ⟨now, rfl, by simp, newest⟩)
      intro sample succeeded
      exact ⟨_, rfl, .inl ⟨rfl, rfl⟩⟩
    | measured start first second running =>
      have passed : first.nanos ≤ second.nanos := by simpa using ordered
      have newest : ∀ time ∈ state.times, time.nanos ≤ second.nanos :=
        fun time member => later time member second (by simp)
      by_cases still : (first.since start).nanos = 0
      · rw [Probe.conclude_stalled _ _ still]
        exact apart.failed nofun (.inr ⟨second, rfl, by simp, newest⟩)
      · obtain ⟨sample, -, concluded⟩ :=
          state.probe.conclude_elapsed delta (Nat.pos_of_ne_zero still)
        have forward : start.nanos < first.nanos := by
          have length : (first.since start).nanos = first.nanos - start.nanos := rfl
          omega
        rw [concluded, running]
        refine apart.measured ?_ rfl running rfl rfl forward passed
        intro sample succeeded
        exact ⟨_, rfl, .inr ⟨_, rfl, rfl⟩⟩

theorem apart_run {direction : Direction} {ceiling : Ceiling} {config : Config} {probe : Probe}
    (made : Probe.of direction ceiling config = .ok probe) (captures : List Nat)
    {slices : List (Slice C)}
    (onward : ((start probe captures).run slices).times.Pairwise
      fun earlier later => earlier.nanos ≤ later.nanos) :
    Apart ((start probe captures).run slices) := by
  induction slices using List.reverseRecOn with
  | nil => exact apart_start made captures
  | append_singleton earlier slice ih =>
    rw [run_concat] at onward ⊢
    exact (ih (pairwise_times_of_step onward)).step onward

/-- However the sections of captures of a fresh probe are interleaved, whatever the tables show and
whichever reads of the clock fail: as long as the clock does not go back, the windows of the captures
that succeed lie one after the other, so that together they are not longer than the time from the
first reading to the last. Every rate is over such a window, or over the one second that stands for
the time before there is a start. -/
theorem windows_run_apart {direction : Direction} {ceiling : Ceiling} {config : Config}
    {probe : Probe} (made : Probe.of direction ceiling config = .ok probe) (captures : List Nat)
    {slices : List (Slice C)}
    (onward : ((start probe captures).run slices).times.Pairwise
      fun earlier later => earlier.nanos ≤ later.nanos) :
    let state := (start probe captures).run slices
    state.windows.Pairwise (fun earlier later => earlier.closed.nanos ≤ later.opened.nanos) ∧
      (∀ window ∈ state.windows, window.opened ∈ state.times ∧ window.closed ∈ state.times ∧
        window.opened.nanos < window.closed.nanos) ∧
      (∀ first last, state.times.head? = some first → state.times.getLast? = some last →
        first.nanos + (state.windows.map Window.length).sum ≤ last.nanos) ∧
      ∀ ended ∈ state.ended, ∀ sample, ended.capture.outcome = some (.ok sample) →
        ∃ measured, ended.capture.events = [.utilization measured] ∧
          ((ended.startedAt = none ∧ measured.elapsedSecs = 1) ∨
            ∃ window, ended.window? = some window ∧
              measured.elapsedSecs = (window.closed.since window.opened).toFloat) := by
  intro state
  have apart : Apart state := apart_run made captures onward
  refine ⟨apart.apart, apart.within, ?_, apart.told⟩
  intro first last oldest newest
  obtain ⟨later, split⟩ := List.head?_eq_some_iff.mp oldest
  obtain ⟨earlier, split'⟩ := List.getLast?_eq_some_iff.mp newest
  have after : ∀ time ∈ state.times, first.nanos ≤ time.nanos := by
    intro time member
    rcases List.mem_cons.mp (split ▸ member) with rfl | further
    · exact Nat.le_refl _
    · exact (List.pairwise_cons.mp (split ▸ onward)).1 time further
  have before : ∀ time ∈ state.times, time.nanos ≤ last.nanos := by
    intro time member
    rcases List.mem_append.mp (split' ▸ member) with further | same
    · exact (List.pairwise_append.mp (split' ▸ onward)).2.2 time further last (by simp)
    · cases List.mem_singleton.mp same
      exact Nat.le_refl _
  refine sum_length_le (after last (List.mem_of_getLast? newest)) apart.apart ?_
  intro window member
  obtain ⟨opened, closed, forward⟩ := apart.within window member
  exact ⟨after _ opened, Nat.le_of_lt forward, before _ closed⟩

/-- Three captures on two threads. The clock fails under the second one between its two reads. -/
def faltering : List (Slice Time.Clock) :=
  let table := File.Content.text "a\nb\neth0: 5 0 0 0 0 0 0 0 7\n"
  let slice (thread seconds : Nat) (failsAfter : Option Nat) : Slice Time.Clock :=
    { thread, table, clock := { now := .ofParts seconds 0, failsAfter } }
  [slice 0 0 none, slice 1 0 none, slice 0 0 none, slice 0 0 none, slice 1 1 none, slice 0 1 none,
    slice 1 1 (some 1), slice 0 2 none, slice 0 2 none]

theorem windows_run_apart_faltering :
    let state := (start Probe.inbound [2, 1]).run faltering
    Probe.of .received Probe.inbound.ceiling {} = .ok Probe.inbound ∧
      state.readings = [some .zero, some (.ofParts 1 0), none, some (.ofParts 2 0),
        some (.ofParts 2 0)] ∧
      state.windows = [⟨.zero, .ofParts 2 0⟩] ∧
      ∀ window ∈ state.windows, window.opened ∈ state.times ∧ window.closed ∈ state.times ∧
        window.opened.nanos < window.closed.nanos := by
  have made : Probe.of .received Probe.inbound.ceiling {} = .ok Probe.inbound := dif_pos (by decide)
  have readings : ((start Probe.inbound [2, 1]).run faltering).readings =
      [some .zero, some (.ofParts 1 0), none, some (.ofParts 2 0), some (.ofParts 2 0)] := by
    decide +kernel
  have windows : ((start Probe.inbound [2, 1]).run faltering).windows =
      [⟨.zero, .ofParts 2 0⟩] := by decide +kernel
  have onward : ((start Probe.inbound [2, 1]).run faltering).times.Pairwise
      fun earlier later => earlier.nanos ≤ later.nanos := by
    rw [times, readings]
    decide
  obtain ⟨-, within, -⟩ := windows_run_apart made [2, 1] onward
  exact ⟨made, readings, windows, within⟩

end Threads

end WorkerVitals.Network
