import WorkerVitals.Proofs.Network.Capture
import WorkerVitals.World

namespace WorkerVitals

/-- The clock of an instrument, if it has one of its own, never fails. -/
def Instrument.Reliable : Instrument → Prop
  | .network _ (some clock) => clock.failsAfter = none
  | .network _ none | .replay _ => True

theorem Time.Clock.read_reliable {clock : Time.Clock} (reliable : clock.failsAfter = none) :
    ∃ now after, Time.Ticker.read clock = (some now, after) ∧ after.failsAfter = none := by
  have reading : Time.Ticker.read clock =
      (some clock.now, { clock with now := clock.now.add clock.step }) := by
    change Time.Clock.read clock = _
    rw [Time.Clock.read, reliable]
  exact ⟨_, _, reading, reliable⟩

variable {E : Type} [Surroundings E]

/-- Reading files and the clock changes nothing, and the clock does not fail. -/
structure Still (surroundings : E) : Prop where
  readFile : ∀ path, (Surroundings.readFile path surroundings).2 = surroundings
  read : ∃ now, Time.Ticker.read surroundings = (some now, surroundings)

/-- In still surroundings a capture comes to an outcome and changes nothing but its instrument. -/
theorem Instrument.capture_still {surroundings : E} (still : Still surroundings)
    {instrument : Instrument} (reliable : instrument.Reliable) :
    ∃ outcome, (instrument.capture surroundings).1.outcome = some outcome ∧
      (instrument.capture surroundings).2.1.Reliable ∧
      (instrument.capture surroundings).2.2 = surroundings := by
  obtain ⟨now, read⟩ := still.read
  have fixed (clock : E) (same : clock = surroundings) :
      ∃ now after, Time.Ticker.read clock = (some now, after) ∧ after = surroundings :=
    ⟨now, surroundings, same ▸ read, rfl⟩
  cases instrument with
  | network probe ownClock =>
    have table := still.readFile probe.config.statFile
    cases ownClock with
    | none =>
      obtain ⟨⟨outcome, obtained⟩, unchanged⟩ := probe.capture_reliable fixed
        (Surroundings.readFile probe.config.statFile surroundings).1 table
      exact ⟨outcome, obtained, trivial, unchanged⟩
    | some clock =>
      obtain ⟨⟨outcome, obtained⟩, kept⟩ := probe.capture_reliable
        (fun _ => Time.Clock.read_reliable)
        (Surroundings.readFile probe.config.statFile surroundings).1 reliable
      exact ⟨outcome, obtained, kept, table⟩
  | replay script =>
    obtain ⟨kind, ceiling, outcomes⟩ := script
    rcases outcomes with _ | ⟨_ | value, rest⟩ <;> exact ⟨_, rfl, trivial, rfl⟩

namespace World

/-- Surroundings are still, and no instrument has a clock that fails. -/
structure Calm (world : World E) : Prop where
  still : Still world.surroundings
  reliable : ∀ instrument ∈ world.instruments, instrument.Reliable

theorem capture_absent {world : World E} {slot : Nat} (absent : world.instruments[slot]? = none) :
    world.capture slot = ({ outcome := none }, world) := by
  simp only [capture, absent]

theorem capture_present {world : World E} {slot : Nat} {instrument : Instrument}
    (present : world.instruments[slot]? = some instrument) :
    world.capture slot = ((instrument.capture world.surroundings).1,
      { surroundings := (instrument.capture world.surroundings).2.2
        instruments := world.instruments.set slot
          (instrument.capture world.surroundings).2.1 }) := by
  simp only [capture, present]

theorem capture_other (world : World E) {slot other : Nat} (different : other ≠ slot) :
    (world.capture slot).2.instruments[other]? = world.instruments[other]? := by
  cases present : world.instruments[slot]? with
  | none => rw [capture_absent present]
  | some instrument =>
    rw [capture_present present]
    exact List.getElem?_set_ne (Ne.symm different)

theorem length_capture (world : World E) (slot : Nat) :
    (world.capture slot).2.instruments.length = world.instruments.length := by
  cases present : world.instruments[slot]? with
  | none => rw [capture_absent present]
  | some instrument =>
    rw [capture_present present]
    exact List.length_set

theorem Calm.capture {world : World E} (calm : world.Calm) (slot : Nat) :
    (world.capture slot).2.Calm ∧ (world.capture slot).2.surroundings = world.surroundings := by
  cases present : world.instruments[slot]? with
  | none =>
    rw [capture_absent present]
    exact ⟨calm, rfl⟩
  | some instrument =>
    have member : instrument ∈ world.instruments := List.mem_of_getElem? present
    obtain ⟨outcome, -, reliable, unchanged⟩ :=
      instrument.capture_still calm.still (calm.reliable instrument member)
    rw [capture_present present, unchanged]
    refine ⟨⟨calm.still, fun kept listed => ?_⟩, rfl⟩
    rcases List.mem_or_eq_of_mem_set listed with before | rfl
    · exact calm.reliable kept before
    · exact reliable

/-- In a calm world no capture of an instrument is given up. -/
theorem Calm.outcome {world : World E} (calm : world.Calm) {slot : Nat}
    (inside : slot < world.instruments.length) : (world.capture slot).1.outcome ≠ none := by
  have present := List.getElem?_eq_getElem inside
  obtain ⟨outcome, obtained, -⟩ :=
    Instrument.capture_still calm.still (calm.reliable _ (List.getElem_mem inside))
  rw [capture_present present, obtained]
  exact Option.some_ne_none outcome

/-- What a capture does depends on the surroundings and on its own instrument only. -/
theorem capture_congr {world other : World E} {slot : Nat}
    (surroundings : other.surroundings = world.surroundings)
    (instrument : other.instruments[slot]? = world.instruments[slot]?) :
    (other.capture slot).1 = (world.capture slot).1 ∧
      (other.capture slot).2.surroundings = (world.capture slot).2.surroundings ∧
      (other.capture slot).2.instruments[slot]? = (world.capture slot).2.instruments[slot]? := by
  cases present : world.instruments[slot]? with
  | none =>
    rw [capture_absent present, capture_absent (instrument.trans present)]
    exact ⟨rfl, surroundings, instrument⟩
  | some found =>
    have there := instrument.trans present
    rw [capture_present present, capture_present there, surroundings]
    refine ⟨rfl, rfl, ?_⟩
    rw [List.getElem?_set_self (List.getElem?_eq_some_iff.mp there).1,
      List.getElem?_set_self (List.getElem?_eq_some_iff.mp present).1]

end World

end WorkerVitals
