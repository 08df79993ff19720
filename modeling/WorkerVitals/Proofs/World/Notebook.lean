import WorkerVitals.Proofs.Collector.Beside
import WorkerVitals.Proofs.Collector.Validity
import WorkerVitals.World

/-! Instruments of a world in a session: some of them are registered, each can be captured by itself,
and the surroundings change in between. A notebook beside the world keeps what every capture came to,
and changes nothing else. -/
namespace WorkerVitals

variable {E W : Type}

/-- What happens in a session with instruments: captures of the instrument in a slot, of what is
registered under a short name, or of all that are registered, and changes of the surroundings. -/
inductive Deed (E : Type) where
  | capture (slot : Nat)
  | captureNamed (shortName : String)
  | round
  | change (act : E → E)

/-- The slot of the instrument that is registered for a kind. -/
abbrev Rack := Kind → Option Nat

/-- The rack without the slots that are not kept. -/
def Rack.keep (rack : Rack) (kept : Nat → Bool) : Rack := fun kind => (rack kind).filter kept

theorem Rack.keep_eq_some_iff {rack : Rack} {kept : Nat → Bool} {kind : Kind} {slot : Nat} :
    rack.keep kept kind = some slot ↔ rack kind = some slot ∧ kept slot = true :=
  Option.filter_eq_some_iff

/-- The deeds without the captures of slots that are not kept. -/
def Deed.keep (deeds : List (Deed E)) (kept : Nat → Bool) : List (Deed E) :=
  deeds.filter fun
    | .capture slot => kept slot
    | _ => true

/-- How the slots of a world are captured, and how its surroundings change, in something that holds
this world. -/
structure Handle (E W : Type) where
  capture : Nat → W → Capture × W
  change : (E → E) → W → W

namespace Handle

variable (handle : Handle E W)

def metric (slot : Nat) (instrument : Instrument) : Metric W where
  kind := instrument.kind
  ceiling := instrument.ceiling
  capture := handle.capture slot

/-- The registry of the instruments in a rack; an instrument is registered for its own kind only. -/
def registry (rack : Rack) (instruments : List Instrument) : Registry W where
  slots kind := do
    let slot ← rack kind
    let instrument ← instruments[slot]?
    if instrument.kind = kind then some (handle.metric slot instrument) else none
  placed := by
    intro kind metric found
    obtain ⟨slot, -, found⟩ := Option.bind_eq_some_iff.mp found
    obtain ⟨instrument, -, found⟩ := Option.bind_eq_some_iff.mp found
    split at found
    · rename_i same
      exact Option.some.inj found ▸ same
    · cases found

/-- The move of a session that a deed is; there is none for a slot without an instrument. -/
def move? (instruments : List Instrument) : Deed E → Option (Move W)
  | .capture slot => instruments[slot]?.map fun instrument => .capture (handle.metric slot instrument)
  | .captureNamed shortName => some (.captureNamed shortName)
  | .round => some .round
  | .change act => some (.elapse (handle.change act))

def moves (instruments : List Instrument) (deeds : List (Deed E)) : List (Move W) :=
  deeds.filterMap (handle.move? instruments)

def start (rack : Rack) (instruments : List Instrument) {limit : Nat} (positive : 0 < limit)
    (world : W) : Session W where
  collector :=
    { registry := handle.registry rack instruments
      limit
      limit_pos := positive }
  world

theorem get?_registry {rack : Rack} {instruments : List Instrument} {kind : Kind}
    {metric : Metric W} :
    (handle.registry rack instruments).get? kind = some metric ↔
      ∃ slot instrument, rack kind = some slot ∧ instruments[slot]? = some instrument ∧
        instrument.kind = kind ∧ metric = handle.metric slot instrument := by
  change (rack kind >>= fun slot => instruments[slot]? >>= fun instrument =>
    if instrument.kind = kind then some (handle.metric slot instrument) else none) = some metric ↔ _
  constructor
  · intro found
    obtain ⟨slot, racked, found⟩ := Option.bind_eq_some_iff.mp found
    obtain ⟨instrument, present, found⟩ := Option.bind_eq_some_iff.mp found
    split at found
    · rename_i same
      exact ⟨slot, instrument, racked, present, same, (Option.some.inj found).symm⟩
    · cases found
  · rintro ⟨slot, instrument, racked, present, same, rfl⟩
    simp [racked, present, same]

theorem fresh_start (rack : Rack) (instruments : List Instrument) {limit : Nat}
    (positive : 0 < limit) (world : W) :
    Collector.of (handle.registry rack instruments) limit =
      .ok (handle.start rack instruments positive world).collector := dif_pos positive

def run (rack : Rack) (instruments : List Instrument) {limit : Nat} (positive : 0 < limit)
    (deeds : List (Deed E)) (world : W) : Session W :=
  (handle.start rack instruments positive world).run (handle.moves instruments deeds)

end Handle

/-- Two handles side by side: captures of the slots that are kept come to the same in both, and the
second one does not notice the others. -/
structure Handle.Beside {V : Type} (R : W → V → Prop) (kept : Nat → Bool) (full : Handle E W)
    (part : Handle E V) (instruments others : List Instrument) : Prop where
  same : ∀ slot, kept slot = true → others[slot]? = instruments[slot]?
  follows : ∀ slot instrument, kept slot = true →
    (full.metric slot instrument).Follows R (part.metric slot instrument)
  unnoticed : ∀ slot instrument, kept slot = false → instruments[slot]? = some instrument →
    (full.metric slot instrument).Unnoticed R

namespace Handle.Beside

variable {V : Type} {R : W → V → Prop} {kept : Nat → Bool} {full : Handle E W} {part : Handle E V}
  {instruments others : List Instrument} (beside : full.Beside R kept part instruments others)
include beside

theorem registered {rack : Rack} {kind : Kind} (held : ∀ slot ∈ rack kind, kept slot = true)
    {metric : Metric W} (found : (full.registry rack instruments).get? kind = some metric) :
    ∃ other, (part.registry (rack.keep kept) others).get? kind = some other := by
  obtain ⟨slot, instrument, racked, present, same, rfl⟩ := full.get?_registry.mp found
  have stays := held slot racked
  exact ⟨_, part.get?_registry.mpr ⟨slot, instrument, Rack.keep_eq_some_iff.mpr ⟨racked, stays⟩,
    (beside.same slot stays).trans present, same, rfl⟩⟩

theorem registry (rack : Rack) :
    (full.registry rack instruments).Beside R (part.registry (rack.keep kept) others) where
  follows := by
    intro kind other found
    obtain ⟨slot, instrument, racked, present, same, rfl⟩ := part.get?_registry.mp found
    obtain ⟨racked, held⟩ := Rack.keep_eq_some_iff.mp racked
    rw [beside.same slot held] at present
    exact ⟨_, full.get?_registry.mpr ⟨slot, instrument, racked, present, same, rfl⟩,
      beside.follows slot instrument held⟩
  unnoticed := by
    intro kind metric found absent
    obtain ⟨slot, instrument, racked, present, same, rfl⟩ := full.get?_registry.mp found
    refine beside.unnoticed slot instrument (Bool.eq_false_iff.mpr fun held => ?_) present
    have only : ∀ other ∈ rack kind, kept other = true :=
      fun other there => Option.some.inj (racked.symm.trans there) ▸ held
    obtain ⟨other, there⟩ := beside.registered only found
    rw [absent] at there
    cases there

theorem moves {deeds : List (Deed E)}
    (changes : ∀ act, .change act ∈ deeds → ∀ w v, R w v →
      R (full.change act w) (part.change act v)) :
    Session.Moves R (full.moves instruments deeds) (part.moves others (Deed.keep deeds kept)) := by
  induction deeds with
  | nil => exact .nil
  | cons deed rest ih =>
    have later := ih fun act member => changes act (List.mem_cons_of_mem _ member)
    cases deed with
    | captureNamed shortName => exact .captureNamed shortName later
    | round => exact .round later
    | change act => exact .elapse (changes act List.mem_cons_self) later
    | capture slot =>
      cases held : kept slot with
      | true =>
        have same := beside.same slot held
        cases present : instruments[slot]? with
        | none => simpa [Handle.moves, Deed.keep, Handle.move?, held, present, same] using later
        | some instrument =>
          simpa [Handle.moves, Deed.keep, Handle.move?, held, present, same] using
            .capture (beside.follows slot instrument held) later
      | false =>
        cases present : instruments[slot]? with
        | none => simpa [Handle.moves, Deed.keep, Handle.move?, held, present] using later
        | some instrument =>
          simpa [Handle.moves, Deed.keep, Handle.move?, held, present] using
            .skip (beside.unnoticed slot instrument held present) later

theorem run (rack : Rack) {limit : Nat} (positive : 0 < limit) (deeds : List (Deed E))
    (changes : ∀ act, .change act ∈ deeds → ∀ w v, R w v →
      R (full.change act w) (part.change act v))
    {world : W} {other : V} (related : R world other) :
    R (full.run rack instruments positive deeds world).world
        (part.run (rack.keep kept) others positive (Deed.keep deeds kept) other).world ∧
      ∀ kind, (∀ slot ∈ rack kind, kept slot = true) →
        (part.run (rack.keep kept) others positive (Deed.keep deeds kept) other).collector.history
          kind = (full.run rack instruments positive deeds world).collector.history kind := by
  have started : (full.start rack instruments positive world).Beside R
      (part.start (rack.keep kept) others positive other) :=
    ⟨related, beside.registry rack, rfl, fun _ _ _ => rfl⟩
  have ended := started.run (beside.moves changes)
  refine ⟨ended.world, fun kind held => ?_⟩
  cases found : (part.registry (rack.keep kept) others).get? kind with
  | some metric =>
    refine ended.history kind metric ?_
    rw [(Session.frame_run _ _).1]
    exact found
  | none =>
    have absent : (full.registry rack instruments).get? kind = none := by
      refine Option.eq_none_iff_forall_ne_some.mpr fun metric present => ?_
      obtain ⟨other, there⟩ := beside.registered held present
      rw [found] at there
      cases there
    rw [Handle.run, Handle.run, Session.history_unregistered (part.fresh_start _ _ _ _) _ found,
      Session.history_unregistered (full.fresh_start _ _ _ _) _ absent]

end Handle.Beside

variable [Surroundings E]

def World.handle : Handle E (World E) where
  capture := World.capture
  change act world := { world with surroundings := act world.surroundings }

/-- A world and what the captures in it came to, each with the slot of its instrument. -/
structure Notebook (E : Type) where
  world : World E
  entries : List (Nat × Capture) := []

namespace Notebook

def handle : Handle E (Notebook E) where
  capture slot notebook :=
    ((notebook.world.capture slot).1,
      { world := (notebook.world.capture slot).2
        entries := notebook.entries ++ [(slot, (notebook.world.capture slot).1)] })
  change act notebook := { notebook with world := World.handle.change act notebook.world }

/-- What the captures of the instrument in a slot came to, in order. -/
def results (notebook : Notebook E) (slot : Nat) : List Capture :=
  (notebook.entries.filter (·.1 == slot)).map Prod.snd

theorem results_capture_same (notebook : Notebook E) (slot : Nat) :
    (handle.capture slot notebook).2.results slot =
      notebook.results slot ++ [(notebook.world.capture slot).1] := by
  simp [results, handle]

theorem results_capture_other (notebook : Notebook E) {slot other : Nat} (different : other ≠ slot) :
    (handle.capture other notebook).2.results slot = notebook.results slot := by
  simp [results, handle, different]

def Shows (notebook : Notebook E) (world : World E) : Prop := notebook.world = world

/-- A notebook only watches: the world and the histories are those of the session without it. -/
theorem run_world (rack : Rack) (instruments : List Instrument) {limit : Nat} (positive : 0 < limit)
    (deeds : List (Deed E)) (world : World E) :
    (handle.run rack instruments positive deeds ⟨world, []⟩).world.world =
        (World.handle.run rack instruments positive deeds world).world ∧
      (handle.run rack instruments positive deeds ⟨world, []⟩).collector.history =
        (World.handle.run rack instruments positive deeds world).collector.history := by
  have all : rack.keep (fun _ => true) = rack := by
    funext kind
    cases racked : rack kind <;> simp [Rack.keep, racked]
  have every : Deed.keep deeds (fun _ => true) = deeds := by
    refine List.filter_eq_self.mpr fun deed _ => ?_
    cases deed <;> rfl
  have beside : handle.Beside (Shows (E := E)) (fun _ => true) World.handle instruments instruments :=
    { same := fun _ _ => rfl
      follows := fun slot instrument _ =>
        ⟨rfl, by rintro notebook _ rfl; rfl, by rintro notebook _ rfl; rfl⟩
      unnoticed := by rintro slot instrument ⟨⟩ }
  have shown : Shows ⟨world, []⟩ world := rfl
  obtain ⟨shown, histories⟩ := beside.run rack positive deeds
    (fun act _ notebook _ shown => congrArg (World.handle.change act) shown) shown
  rw [all, every] at shown histories
  exact ⟨shown, funext fun kind => (histories kind fun _ _ => rfl).symm⟩

end Notebook

end WorkerVitals
