import WorkerVitals.Bench
import WorkerVitals.Proofs.World.Calm
import WorkerVitals.Proofs.World.Notebook

/-! Instruments in a calm world do not get in each other's way, though they share files, a clock, a
registry and rounds: what captures of some of them come to is what they would come to if the others
were never captured. -/
namespace WorkerVitals

variable {E : Type} [Surroundings E]

namespace Notebook

/-- Two notebooks agree on the slots that are kept: on the surroundings, on the instruments there, and
on what their captures came to. Only the first has to be calm, in surroundings that are steady. -/
structure Agree (Steady : E → Prop) (kept : Nat → Bool) (count : Nat) (full part : Notebook E) :
    Prop where
  calm : full.world.Calm
  steady : Steady full.world.surroundings
  size : full.world.instruments.length = count
  surroundings : part.world.surroundings = full.world.surroundings
  instruments : ∀ slot, kept slot = true →
    part.world.instruments[slot]? = full.world.instruments[slot]?
  results : ∀ slot, kept slot = true → part.results slot = full.results slot

variable {Steady : E → Prop} {kept : Nat → Bool} {count : Nat} {full part : Notebook E}

theorem Agree.capture (agree : Agree Steady kept count full part) {slot : Nat}
    (held : kept slot = true) :
    (handle.capture slot part).1 = (handle.capture slot full).1 ∧
      Agree Steady kept count (handle.capture slot full).2 (handle.capture slot part).2 := by
  obtain ⟨same, surroundings, instrument⟩ :=
    World.capture_congr agree.surroundings (agree.instruments slot held)
  obtain ⟨calm, unchanged⟩ := agree.calm.capture slot
  refine ⟨same, calm, unchanged.symm ▸ agree.steady, ?_, surroundings, ?_, ?_⟩
  · exact (World.length_capture _ slot).trans agree.size
  · intro other also
    by_cases here : other = slot
    · exact here ▸ instrument
    · exact (World.capture_other _ here).trans
        ((agree.instruments other also).trans (World.capture_other _ here).symm)
  · intro other also
    by_cases here : slot = other
    · subst here
      rw [results_capture_same, results_capture_same, agree.results slot also, same]
    · rw [results_capture_other _ here, results_capture_other _ here, agree.results other also]

theorem Agree.skip (agree : Agree Steady kept count full part) {slot : Nat}
    (dropped : kept slot = false) :
    Agree Steady kept count (handle.capture slot full).2 part := by
  obtain ⟨calm, unchanged⟩ := agree.calm.capture slot
  have apart {other : Nat} (also : kept other = true) : other ≠ slot := by
    rintro rfl
    rw [dropped] at also
    cases also
  refine ⟨calm, unchanged.symm ▸ agree.steady, ?_, agree.surroundings.trans unchanged.symm, ?_, ?_⟩
  · exact (World.length_capture _ slot).trans agree.size
  · intro other also
    exact (agree.instruments other also).trans (World.capture_other _ (apart also)).symm
  · intro other also
    rw [results_capture_other _ (apart also).symm, agree.results other also]

theorem Agree.change (agree : Agree Steady kept count full part) {act : E → E}
    (still : ∀ surroundings, Steady surroundings → Still surroundings)
    (stays : ∀ surroundings, Steady surroundings → Steady (act surroundings)) :
    Agree Steady kept count (handle.change act full) (handle.change act part) where
  calm := ⟨still _ (stays _ agree.steady), agree.calm.reliable⟩
  steady := stays _ agree.steady
  size := agree.size
  surroundings := congrArg act agree.surroundings
  instruments := agree.instruments
  results := agree.results

theorem beside_agree {instruments others : List Instrument}
    (same : ∀ slot, kept slot = true → others[slot]? = instruments[slot]?) :
    handle.Beside (Agree Steady kept instruments.length) kept handle instruments others where
  same := same
  follows _ _ held :=
    ⟨rfl, fun _ _ agree => (agree.capture held).1, fun _ _ agree => (agree.capture held).2⟩
  unnoticed _ _ dropped present :=
    ⟨fun _ _ agree => agree.calm.outcome
        (agree.size.symm ▸ (List.getElem?_eq_some_iff.mp present).1),
      fun _ _ agree => agree.skip dropped⟩

/-- The session of a world, with a notebook that is empty at the start. -/
def session (rack : Rack) {limit : Nat} (positive : 0 < limit) (deeds : List (Deed E))
    (world : World E) : Session (Notebook E) :=
  handle.run rack world.instruments positive deeds ⟨world, []⟩

section Steady

variable (still : ∀ surroundings, Steady surroundings → Still surroundings) {deeds : List (Deed E)}
  (stays : ∀ act, .change act ∈ deeds → ∀ surroundings, Steady surroundings →
    Steady (act surroundings))
  {world : World E} (steady : Steady world.surroundings)
  (reliable : ∀ instrument ∈ world.instruments, instrument.Reliable) (rack : Rack) {limit : Nat}
  (positive : 0 < limit)
include still stays steady reliable

/-- A session agrees with one that has only the slots that are kept, in a world with the same
instruments there. -/
theorem session_keep {other : World E} (surroundings : other.surroundings = world.surroundings)
    (same : ∀ slot, kept slot = true → other.instruments[slot]? = world.instruments[slot]?) :
    (∀ slot, kept slot = true →
        (session (rack.keep kept) positive (Deed.keep deeds kept) other).world.results slot =
          (session rack positive deeds world).world.results slot) ∧
      ∀ kind, (∀ slot ∈ rack kind, kept slot = true) →
        (session (rack.keep kept) positive (Deed.keep deeds kept) other).collector.history kind =
          (session rack positive deeds world).collector.history kind := by
  have started : Agree Steady kept world.instruments.length ⟨world, []⟩ ⟨other, []⟩ :=
    ⟨⟨still _ steady, reliable⟩, steady, rfl, surroundings, same, fun _ _ => rfl⟩
  obtain ⟨agree, histories⟩ := (beside_agree same).run rack positive deeds
    (fun act member _ _ agree => agree.change still (stays act member)) started
  exact ⟨agree.results, histories⟩

/-- In surroundings that stay still, what captures of some instruments come to, by themselves, by name
or in rounds, and what the rounds record of them, is the same when all other instruments are taken out
of the registry and never captured. So it is when the others are exchanged for any whose clocks do not
fail, whether their captures succeed or not. And a notebook only watches: worlds and histories are
those of a session without one. -/
theorem results_isolated (kept : Nat → Bool) :
    (∀ slot, kept slot = true →
        (session rack positive deeds world).world.results slot =
          (session (rack.keep kept) positive (Deed.keep deeds kept) world).world.results slot) ∧
      (∀ kind, (∀ slot ∈ rack kind, kept slot = true) →
        (session rack positive deeds world).collector.history kind =
          (session (rack.keep kept) positive (Deed.keep deeds kept) world).collector.history kind) ∧
      (∀ other : World E, other.surroundings = world.surroundings →
        (∀ instrument ∈ other.instruments, instrument.Reliable) →
        (∀ slot, kept slot = true → other.instruments[slot]? = world.instruments[slot]?) →
        (∀ slot, kept slot = true →
            (session rack positive deeds other).world.results slot =
              (session rack positive deeds world).world.results slot) ∧
          ∀ kind, (∀ slot ∈ rack kind, kept slot = true) →
            (session rack positive deeds other).collector.history kind =
              (session rack positive deeds world).collector.history kind) ∧
      (session rack positive deeds world).world.world =
          (World.handle.run rack world.instruments positive deeds world).world ∧
      (session rack positive deeds world).collector.history =
          (World.handle.run rack world.instruments positive deeds world).collector.history := by
  obtain ⟨results, histories⟩ := session_keep still stays steady reliable rack positive rfl
    fun slot (_ : kept slot = true) => rfl
  refine ⟨fun slot held => (results slot held).symm, fun kind held => (histories kind held).symm,
    fun other surroundings sound same => ?_, run_world rack world.instruments positive deeds world⟩
  obtain ⟨exchanged, records⟩ := session_keep still stays (surroundings ▸ steady) sound rack positive
    surroundings.symm fun slot held => (same slot held).symm
  exact ⟨fun slot held => (exchanged slot held).symm.trans (results slot held),
    fun kind held => (records kind held).symm.trans (histories kind held)⟩

end Steady

end Notebook

/-- The clock of a sandbox is not moved by reading it, and does not fail. -/
def Sandbox.Steady (sandbox : Sandbox) : Prop :=
  sandbox.clock.step = .zero ∧ sandbox.clock.failsAfter = none

theorem Sandbox.Steady.still {sandbox : Sandbox} (steady : sandbox.Steady) : Still sandbox where
  readFile _ := rfl
  read := by
    obtain ⟨files, now, step, failsAfter⟩ := sandbox
    obtain ⟨rfl, rfl⟩ := steady
    have standing : now.add .zero = now := by
      apply Time.Duration.ext
      have below := now.nanos_lt
      change min (now.nanos + 0) (UInt64.size * Time.nanosPerSecond - 1) = now.nanos
      omega
    refine ⟨now, ?_⟩
    change (some now, ({ files, clock := { now := now.add .zero } } : Sandbox)) = _
    rw [standing]

namespace Notebook

def crowd (outcomes : List (Option Float)) : World Sandbox where
  surroundings := { files := ⟨[(["net"], .file (.text "a\nb\neth0: 5 0 0 0 0 0 0 0 7\n"))]⟩ }
  instruments :=
    let probe := Network.Probe.inbound
    let config : Network.Config := { statFile := "net" }
    [.network ⟨.received, probe.ceiling, config, probe.bandwidth_pos, none, {}⟩ none,
     .network ⟨.transmitted, probe.ceiling, config, probe.bandwidth_pos, none, {}⟩ none,
     .replay { kind := .cpu, ceiling := probe.ceiling, outcomes }]

def crowdRack : Rack
  | .networkIn => some 0
  | .networkOut => some 1
  | .cpu => some 2
  | .memory => none

def crowdDeeds : List (Deed Sandbox) :=
  [.round, .capture 1,
   .change fun sandbox => { sandbox with clock.now := .ofParts 1 0 },
   .change fun sandbox => { sandbox with
     files := sandbox.files.write "net" (.text "a\nb\neth0: 1310725 0 0 0 0 0 0 0 7\n") },
   .capture 1, .round, .captureNamed "NO",
   .change fun sandbox => { sandbox with files := sandbox.files.remove "net" },
   .captureNamed "NI", .round]

theorem crowd_reliable (outcomes : List (Option Float)) :
    ∀ instrument ∈ (crowd outcomes).instruments, instrument.Reliable := by
  simp [crowd, Instrument.Reliable]

/-- The first direction comes to the same whether the replay fails or not, and though the other
direction is captured in between. Three of its four captures are recorded, the last one as a failure,
as its file is gone. -/
theorem results_isolated_crowd :
    let alone := session (crowdRack.keep (· == 0)) (by decide : 0 < 3)
      (Deed.keep crowdDeeds (· == 0)) (crowd [none, none])
    let failing := session crowdRack (by decide : 0 < 3) crowdDeeds (crowd [none, none])
    let passing := session crowdRack (by decide : 0 < 3) crowdDeeds
      (crowd [some 10, some 20, some 30])
    failing.world.results 0 = alone.world.results 0 ∧
      passing.world.results 0 = alone.world.results 0 ∧
      alone.collector.history .networkIn = some [0, 1, -1] ∧
      failing.collector.history .networkIn = some [0, 1, -1] ∧
      passing.collector.history .networkIn = some [0, 1, -1] := by
  intro alone failing passing
  have stays : ∀ act, .change act ∈ crowdDeeds → ∀ sandbox : Sandbox, sandbox.Steady →
      (act sandbox).Steady := by
    intro act member sandbox steady
    simp only [crowdDeeds, List.mem_cons, reduceCtorEq, Deed.change.injEq, List.not_mem_nil,
      false_or, or_false] at member
    rcases member with rfl | rfl | rfl <;> exact steady
  obtain ⟨results, histories, exchanged, -⟩ := results_isolated (fun _ => Sandbox.Steady.still) stays
    (⟨rfl, rfl⟩ : (crowd [none, none]).surroundings.Steady) (crowd_reliable _) crowdRack
    (by decide : 0 < 3) (· == 0)
  obtain ⟨same, recorded⟩ := exchanged (crowd [some 10, some 20, some 30]) rfl (crowd_reliable _)
    fun slot held => by
      obtain rfl : slot = 0 := by simpa using held
      rfl
  have only : ∀ slot ∈ crowdRack .networkIn, (slot == 0) = true := by decide
  have history : alone.collector.history .networkIn = some [0, 1, -1] := by decide +kernel
  have kept : failing.collector.history .networkIn = some [0, 1, -1] :=
    (histories .networkIn only).trans history
  exact ⟨results 0 rfl, (same 0 rfl).trans (results 0 rfl), history, kept,
    (recorded .networkIn only).trans kept⟩

end Notebook

end WorkerVitals
