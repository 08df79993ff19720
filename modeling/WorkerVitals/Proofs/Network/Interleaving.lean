import WorkerVitals.Proofs.Network.Overlap
import WorkerVitals.Proofs.Network.Threads

/-! Overlapping captures are threads that make one capture each: what the sections of captures can
come to under a table that grows is what such threads can come to, one section after the other. -/
namespace WorkerVitals.Network

variable {C : Type}

def Stage.thread : Stage → Thread
  | .waiting => { left := 1 }
  | .read counters => { left := 0, midway := some (.read counters) }
  | .replaced delta => { left := 0, midway := some (.replaced delta) }
  | .finished .. => { left := 0 }

def Stage.capture? : Stage → Option Capture
  | .finished _ capture => some capture
  | _ => none

/-- What a thread has captured first. -/
def Threads.captured (state : Threads) (thread : Nat) : Option Capture :=
  (state.ended.find? fun ended => ended.thread = thread).map Ended.capture

namespace Overlap

def captured (overlap : Overlap C) (place : Nat) : Option Capture :=
  overlap.stages[place]?.bind Stage.capture?

def slice (overlap : Overlap C) (place : Nat) : Slice C :=
  { thread := place, table := overlap.table, clock := overlap.clock }

/-- The same captures on threads. -/
structure Threaded (overlap : Overlap C) (state : Threads) : Prop where
  probe : state.probe = overlap.probe
  threads : state.threads = overlap.stages.map Stage.thread
  captured : ∀ place, state.captured place = overlap.captured place

theorem threaded_start (probe : Probe) (table : File.Content) (clock : C) (captures : Nat) :
    (start probe table clock captures).Threaded (.start probe (.replicate captures 1)) where
  probe := rfl
  threads := by simp [start, Threads.start, Stage.thread]
  captured place := by
    cases waiting : (start probe table clock captures).stages[place]? with
    | none => simp [captured, waiting, Threads.captured, Threads.start]
    | some stage =>
      obtain rfl := List.eq_of_mem_replicate (List.mem_of_getElem? waiting)
      simp [captured, waiting, Threads.captured, Threads.start, Stage.capture?]

variable {overlap : Overlap C} {state : Threads} {place : Nat} {stage : Stage}

theorem Threaded.turn (threaded : overlap.Threaded state)
    (there : overlap.stages[place]? = some stage) :
    state.threads[place]? = some stage.thread := by
  rw [threaded.threads, List.getElem?_map, there, Option.map_some]

theorem captured_of_stage (there : overlap.stages[place]? = some stage) :
    overlap.captured place = stage.capture? := by
  rw [Overlap.captured, there, Option.bind_some]

theorem captured_set {after : Overlap C} (there : overlap.stages[place]? = some stage)
    {next : Stage} (set : after.stages = overlap.stages.set place next) (other : Nat) :
    after.captured other =
      if other = place then next.capture? else overlap.captured other := by
  obtain ⟨within, _⟩ := List.getElem?_eq_some_iff.mp there
  unfold Overlap.captured
  rw [set]
  split
  · rename_i here
    rw [here, List.getElem?_set_self within, Option.bind_some]
  · rename_i elsewhere
    rw [List.getElem?_set_ne (Ne.symm elsewhere)]

theorem Threaded.under_way (threaded : overlap.Threaded state) {after : Overlap C}
    (there : overlap.stages[place]? = some stage) {next : Stage}
    (set : after.stages = overlap.stages.set place next)
    (open_before : stage.capture? = none) (open_after : next.capture? = none) :
    after.Threaded
      { state with probe := after.probe, threads := state.threads.set place next.thread } where
  probe := rfl
  threads := by rw [set, List.map_set, threaded.threads]
  captured other := by
    refine (threaded.captured other).trans ?_
    rw [captured_set there set]
    split
    · rename_i here
      rw [here, captured_of_stage there, open_before, open_after]
    · rfl

theorem Threaded.ended (threaded : overlap.Threaded state) {after : Overlap C}
    (there : overlap.stages[place]? = some stage) {delta : Counters} {last : Ended}
    (set : after.stages = overlap.stages.set place (.finished delta last.capture))
    (open_before : stage.capture? = none) (own : last.thread = place) :
    after.Threaded
      { probe := after.probe
        threads := state.threads.set place { left := 0 }
        ended := state.ended ++ [last] } where
  probe := rfl
  threads := by rw [set, List.map_set, threaded.threads, Stage.thread]
  captured other := by
    have before := threaded.captured other
    rw [captured_set there set]
    unfold Threads.captured at before ⊢
    rw [List.find?_append]
    split
    · rename_i here
      subst here
      rw [captured_of_stage there, open_before, Option.map_eq_none_iff] at before
      simp [before, own, Stage.capture?]
    · rename_i elsewhere
      simpa [own, Ne.symm elsewhere] using before

variable [Time.Ticker C]

theorem Threaded.read (threaded : overlap.Threaded state) {counters : Counters}
    (waits : overlap.stages[place]? = some .waiting)
    (shown : overlap.probe.readCounters overlap.table = .ok counters) :
    { overlap with stages := overlap.stages.set place (.read counters) }.Threaded
      (state.step (overlap.slice place)) := by
  have stepped : state.step (overlap.slice place) =
      { state with
        probe := overlap.probe, threads := state.threads.set place (Stage.read counters).thread } := by
    simp only [Threads.step, slice, threaded.turn waits, Stage.thread, Threads.advance,
      threaded.probe, shown]
  rw [stepped]
  exact threaded.under_way waits rfl rfl rfl

theorem Threaded.replace (threaded : overlap.Threaded state) {counters : Counters}
    (holds : overlap.stages[place]? = some (.read counters)) :
    { overlap with
      probe := (overlap.probe.replaceCounters counters).2
      stages := overlap.stages.set place (.replaced (overlap.probe.replaceCounters counters).1)
      stored := overlap.stored ++ [counters] }.Threaded (state.step (overlap.slice place)) := by
  have stepped : state.step (overlap.slice place) =
      { state with
        probe := (overlap.probe.replaceCounters counters).2
        threads := state.threads.set place
          (Stage.replaced (overlap.probe.replaceCounters counters).1).thread } := by
    simp only [Threads.step, slice, threaded.turn holds, Stage.thread, Threads.advance,
      threaded.probe]
  rw [stepped]
  exact threaded.under_way holds rfl rfl rfl

theorem Threaded.finish (threaded : overlap.Threaded state) {delta : Counters}
    (holds : overlap.stages[place]? = some (.replaced delta)) :
    { overlap with
      probe := (overlap.probe.finish delta overlap.clock).2.1
      clock := (overlap.probe.finish delta overlap.clock).2.2
      stages := overlap.stages.set place
        (.finished delta (overlap.probe.finish delta overlap.clock).1) }.Threaded
      (state.step (overlap.slice place)) := by
  have stepped : state.step (overlap.slice place) =
      { probe := (overlap.probe.finish delta overlap.clock).2.1
        threads := state.threads.set place { left := 0 }
        ended := state.ended ++
          [{ thread := place
             capture := (overlap.probe.finish delta overlap.clock).1
             startedAt := overlap.probe.stopwatch.startedAt
             readings := overlap.probe.stopwatch.lapReadings overlap.clock }] } := by
    simp only [Threads.step, slice, threaded.turn holds, Stage.thread, Threads.advance,
      threaded.probe]
  rw [stepped]
  exact threaded.ended holds rfl rfl rfl

/-- A table that a probe reads, and a later one in which no counter went back. -/
def Grows (probe : Probe) (earlier later : File.Content) : Prop :=
  ∃ before after, probe.readCounters earlier = .ok before ∧
    probe.readCounters later = .ok after ∧
    ∀ direction, before.get direction ≤ after.get direction

theorem grows_self {probe : Probe} {table : File.Content} {counters : Counters}
    (shown : probe.readCounters table = .ok counters) : Grows probe table table :=
  ⟨counters, counters, shown, shown, fun _ => UInt64.le_refl _⟩

theorem grows_congr {probe after : Probe}
    (reads : ∀ table, after.readCounters table = probe.readCounters table) :
    Grows after = Grows probe := by
  funext earlier later
  simp only [Grows, reads]

/-- A thread that is none of the captures does nothing. -/
theorem Threaded.rests (threaded : overlap.Threaded state) {slice : Slice C}
    (none : overlap.stages[slice.thread]? = none) : state.step slice = state := by
  simp [Threads.step, threaded.threads, none]

/-- Every step of the captures is a section of a thread, or leaves the threads as they are. -/
theorem Threaded.of_step (threaded : overlap.Threaded state) {after : Overlap C}
    {counters : Counters} (shown : overlap.probe.readCounters overlap.table = .ok counters)
    (step : Step overlap after) :
    ∃ slice : Slice C, slice.table = after.table ∧ after.Threaded (state.step slice) ∧
      Grows overlap.probe overlap.table after.table ∧
      ∀ table, after.probe.readCounters table = overlap.probe.readCounters table := by
  -- No thread has this number: its turn stands for what happens between the sections.
  have idle {table : File.Content} {clock : C} :
      state.step { thread := overlap.stages.length, table, clock } = state :=
    threaded.rests (List.getElem?_length _)
  cases step with
  | @read place _ waits reads =>
    exact ⟨overlap.slice place, rfl, threaded.read waits reads, grows_self shown, fun _ => rfl⟩
  | @replace place _ holds =>
    exact ⟨overlap.slice place, rfl, threaded.replace holds, grows_self shown, by simp⟩
  | @finish place _ holds =>
    exact ⟨overlap.slice place, rfl, threaded.finish holds, grows_self shown, by simp⟩
  | @update table before after reads shows grows =>
    refine ⟨⟨overlap.stages.length, table, overlap.clock⟩, rfl, ?_,
      ⟨before, after, reads, shows, grows⟩, fun _ => rfl⟩
    rw [idle]
    exact ⟨threaded.probe, threaded.threads, threaded.captured⟩
  | elapse clock =>
    refine ⟨⟨overlap.stages.length, overlap.table, clock⟩, rfl, ?_, grows_self shown, fun _ => rfl⟩
    rw [idle]
    exact ⟨threaded.probe, threaded.threads, threaded.captured⟩

/-- Whatever captures come to that overlap, threads come to as they meet tables that grow. -/
theorem Threaded.exists_slices (threaded : overlap.Threaded state) {counters : Counters}
    (shown : overlap.probe.readCounters overlap.table = .ok counters) {after : Overlap C}
    (run : Relation.ReflTransGen Step overlap after) :
    ∃ slices : List (Slice C),
      (overlap.table :: slices.map Slice.table).IsChain (Grows overlap.probe) ∧
        after.Threaded (state.run slices) := by
  induction run using Relation.ReflTransGen.head_induction_on generalizing state counters with
  | refl => exact ⟨[], .singleton _, threaded⟩
  | head step _ ih =>
    obtain ⟨slice, table, next, grows, reads⟩ := threaded.of_step shown step
    have ⟨_, now, _, shows, _⟩ := grows
    obtain ⟨slices, later, ends⟩ := ih next ((reads _).trans shows)
    rw [grows_congr reads, ← table] at later
    refine ⟨slice :: slices, ?_, ends⟩
    rw [List.map_cons, List.isChain_cons_cons]
    exact ⟨table ▸ grows, later⟩

theorem Threaded.section_step (threaded : overlap.Threaded state) {counters : Counters}
    (shown : overlap.probe.readCounters overlap.table = .ok counters) (place : Nat) :
    ∃ after, Relation.ReflTransGen Step overlap after ∧
      after.Threaded (state.step (overlap.slice place)) ∧ after.table = overlap.table ∧
      ∀ table, after.probe.readCounters table = overlap.probe.readCounters table := by
  cases there : overlap.stages[place]? with
  | none =>
    have rests : state.step (overlap.slice place) = state := threaded.rests there
    rw [rests]
    exact ⟨overlap, .refl, threaded, rfl, fun _ => rfl⟩
  | some stage =>
    cases stage with
    | waiting => exact ⟨_, .single (.read there shown), threaded.read there shown, rfl, fun _ => rfl⟩
    | read counters =>
      exact ⟨_, .single (.replace there), threaded.replace there, rfl, by simp⟩
    | replaced delta =>
      exact ⟨_, .single (.finish there), threaded.finish there, rfl, by simp⟩
    | finished delta capture =>
      have rests : state.step (overlap.slice place) = state := by
        simp only [Threads.step, slice, threaded.turn there, Stage.thread, Threads.advance]
      rw [rests]
      exact ⟨overlap, .refl, threaded, rfl, fun _ => rfl⟩

/-- Whatever threads come to as they meet tables that grow, captures come to that overlap. -/
theorem Threaded.exists_overlap (threaded : overlap.Threaded state) {slices : List (Slice C)}
    (grows : (overlap.table :: slices.map Slice.table).IsChain (Grows overlap.probe)) :
    ∃ after, Relation.ReflTransGen Step overlap after ∧ after.Threaded (state.run slices) := by
  induction slices generalizing overlap state with
  | nil => exact ⟨overlap, .refl, threaded⟩
  | cons slice slices ih =>
    rw [List.map_cons, List.isChain_cons_cons] at grows
    obtain ⟨⟨before, shown, reads, shows, more⟩, later⟩ := grows
    have updated := (Relation.ReflTransGen.single (Step.update reads shows more)).tail
      (Step.elapse slice.clock)
    have met : { overlap with table := slice.table, clock := slice.clock }.Threaded state :=
      ⟨threaded.probe, threaded.threads, threaded.captured⟩
    obtain ⟨next, gone, advanced, table, reads⟩ := met.section_step shows slice.thread
    have rest : (next.table :: slices.map Slice.table).IsChain (Grows next.probe) := by
      rw [grows_congr reads, table]
      exact later
    obtain ⟨after, run, ends⟩ := ih advanced rest
    exact ⟨after, (updated.trans gone).trans run, ends⟩

/-- What captures of a table that grows come to when they overlap is what threads come to that make
one capture each, and the other way round. -/
theorem overlaps_as_threads {probe : Probe} {table : File.Content} {counters : Counters}
    (shown : probe.readCounters table = .ok counters) (clock : C) (captures : Nat) :
    (∀ overlap, Relation.ReflTransGen Step (start probe table clock captures) overlap →
      ∃ slices : List (Slice C), (table :: slices.map Slice.table).IsChain (Grows probe) ∧
        overlap.Threaded ((Threads.start probe (.replicate captures 1)).run slices)) ∧
    ∀ slices : List (Slice C), (table :: slices.map Slice.table).IsChain (Grows probe) →
      ∃ overlap, Relation.ReflTransGen Step (start probe table clock captures) overlap ∧
        overlap.Threaded ((Threads.start probe (.replicate captures 1)).run slices) :=
  have started := threaded_start probe table clock captures
  ⟨fun _ run => started.exists_slices shown run, fun _ grows => started.exists_overlap grows⟩

end Overlap

end WorkerVitals.Network
