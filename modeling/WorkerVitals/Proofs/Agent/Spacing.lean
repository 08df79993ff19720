import WorkerVitals.Proofs.Agent.Start
import WorkerVitals.Proofs.Pacing

/-! How far apart the rounds of a run are. A wait counts from the newest round without a failure,
and a failing round does not move that mark: while no round was clean every wait is the idle time,
after a clean round the wait keeps the idle time from it, and once that has passed failing rounds
follow each other at once. -/
namespace WorkerVitals

variable {E : Type}

/-- A cycle in whose round no capture failed. -/
def Cycle.isClean (cycle : Cycle E) : Bool := cycle.round.any Round.isClean

/-- The stamp of the newest clean round. -/
def newestClean (cycles : List (Cycle E)) : Option Time.Instant :=
  (cycles.filter Cycle.isClean).getLast?.map fun cycle => cycle.turn.stamp

/-- What the wall clock shows in a turn, in the order in which it is read. -/
def Turn.moments (turn : Turn) : List Time.Instant := [turn.stamp, turn.asked]

/-- The wall clock never goes back. -/
def Chronological (turns : List Turn) : Prop :=
  (turns.flatMap Turn.moments).Pairwise fun earlier later => earlier.sinceEpoch ≤ later.sinceEpoch

/-- A wait asked for at a moment ends no sooner than the idle time after a stamp. -/
def Spaced (idleMillis : Int64) (stamp asked : Time.Instant) (millis : Nat) : Prop :=
  stamp.sinceEpoch + idleMillis.toInt * Time.nanosPerMilli ≤
    asked.sinceEpoch + millis * Time.nanosPerMilli

theorem newestClean_cons (cycle : Cycle E) (later : List (Cycle E)) :
    newestClean (cycle :: later) =
      (newestClean later).or (if cycle.isClean then some cycle.turn.stamp else none) := by
  unfold newestClean
  by_cases clean : cycle.isClean
  · rw [List.filter_cons_of_pos clean, List.getLast?_cons, if_pos clean]
    cases (later.filter Cycle.isClean).getLast? <;> rfl
  · rw [List.filter_cons_of_neg clean, if_neg clean, Option.or_none]

theorem newestClean_concat_clean (earlier : List (Cycle E)) {cycle : Cycle E}
    (clean : cycle.isClean) : newestClean (earlier ++ [cycle]) = some cycle.turn.stamp := by
  simp [newestClean, clean]

theorem exists_of_newestClean {cycles : List (Cycle E)} {last : Time.Instant}
    (newest : newestClean cycles = some last) : ∃ cycle ∈ cycles, cycle.turn.stamp = last := by
  obtain ⟨cycle, kept, same⟩ := Option.map_eq_some_iff.mp newest
  exact ⟨cycle, (List.mem_filter.mp (List.mem_of_getLast? kept)).1, same⟩

namespace Agent

/-- A cycle that is followed by another one asks for its wait with the mark that it leaves. -/
theorem cycle_waiting {agent : Agent E} {turn : Turn} {millis : Nat}
    (waiting : (agent.cycle turn).next = .wait millis) :
    (agent.cycle turn).agent.settings = agent.settings ∧
      (agent.cycle turn).agent.lastCall =
        (if (agent.cycle turn).isClean then some turn.stamp else agent.lastCall) ∧
      millis = (agent.cycle turn).agent.wait turn.asked := by
  unfold cycle at waiting ⊢
  cases ended : (agent.collector.captureAll agent.world).round with
  | none => simp [ended] at waiting
  | some round =>
    simp only [ended, decide] at waiting ⊢
    refine ⟨trivial, rfl, ?_⟩
    split at waiting
    · cases waiting
    · exact (Next.wait.inj waiting).symm

theorem turn_cycle (agent : Agent E) (turn : Turn) : (agent.cycle turn).turn = turn := by
  simp only [cycle]
  split <;> rfl

theorem cycles_run_cons (agent : Agent E) (turn : Turn) (rest : List Turn) :
    (agent.run (turn :: rest)).cycles = [agent.cycle turn] ∨
      ∃ millis, (agent.cycle turn).next = .wait millis ∧
        (agent.run (turn :: rest)).cycles =
          agent.cycle turn :: ((agent.cycle turn).agent.run rest).cycles := by
  rw [run]
  cases next : (agent.cycle turn).next with
  | finish => exact .inl rfl
  | crash => exact .inl rfl
  | wait millis =>
    by_cases interrupted : turn.interrupted
    · exact .inl (by simp [interrupted])
    · exact .inr ⟨millis, rfl, by simp [interrupted]⟩

theorem turns_run_prefix (agent : Agent E) (turns : List Turn) :
    (agent.run turns).cycles.map Cycle.turn <+: turns := by
  induction turns generalizing agent with
  | nil => exact List.prefix_rfl
  | cons turn rest ih =>
    rcases cycles_run_cons agent turn rest with last | ⟨_, _, more⟩
    · rw [last, List.map_singleton, turn_cycle]
      exact ⟨rest, rfl⟩
    · rw [more, List.map_cons, turn_cycle]
      exact List.cons_prefix_cons.mpr ⟨rfl, ih _⟩

/-- Along a run each wait counts from the newest clean round until then. -/
theorem next_run (agent : Agent E) (turns : List Turn) {earlier later : List (Cycle E)}
    {cycle next : Cycle E}
    (followed : (agent.run turns).cycles = earlier ++ cycle :: next :: later) :
    cycle.next = .wait ((agent.settings.pacing ((newestClean (earlier ++ [cycle])).or
      agent.lastCall)).wait cycle.turn.asked).toInt.toNat := by
  -- The rest of the run starts from the mark that its first cycle left.
  induction turns generalizing agent earlier with
  | nil => simp [run] at followed
  | cons turn rest ih =>
    rcases cycles_run_cons agent turn rest with last | ⟨millis, waiting, more⟩
    · have short := congrArg List.length (last.symm.trans followed)
      simp only [List.length_append, List.length_cons, List.length_nil] at short
      omega
    · obtain ⟨settings, mark, asked⟩ := cycle_waiting waiting
      rw [more] at followed
      cases earlier with
      | nil =>
        obtain ⟨rfl, -⟩ := List.cons.inj followed
        rw [List.nil_append, newestClean_cons, waiting, asked, wait, settings, mark, turn_cycle]
        split <;> rfl
      | cons first earlier =>
        rw [List.cons_append] at followed
        obtain ⟨same, onward⟩ := List.cons.inj followed
        subst same
        rw [ih _ onward, settings, mark, List.cons_append, newestClean_cons, turn_cycle,
          Option.or_assoc]
        split <;> rfl

/-- Until a cycle of a chronological run, each clean stamp is followed by its own stamp, and that by
the moment at which it asks for its wait. -/
theorem ordered_run (agent : Agent E) {turns : List Turn} (ordered : Chronological turns)
    {earlier later : List (Cycle E)} {cycle : Cycle E}
    (reached : (agent.run turns).cycles = earlier ++ cycle :: later) :
    cycle.turn.stamp.sinceEpoch ≤ cycle.turn.asked.sinceEpoch ∧
      ∀ last, newestClean (earlier ++ [cycle]) = some last →
        last.sinceEpoch ≤ cycle.turn.stamp.sinceEpoch := by
  obtain ⟨rest, split⟩ := agent.turns_run_prefix turns
  rw [reached] at split
  unfold Chronological at ordered
  simp only [← split, List.map_append, List.map_cons, List.flatMap_append, List.flatMap_cons,
    Turn.moments, List.append_assoc, List.cons_append, List.nil_append] at ordered
  obtain ⟨-, own, before⟩ := List.pairwise_append.mp ordered
  refine ⟨List.rel_of_pairwise_cons own List.mem_cons_self, ?_⟩
  intro last newest
  obtain ⟨clean, member, rfl⟩ := exists_of_newestClean newest
  rcases List.mem_append.mp member with member | member
  · refine before clean.turn.stamp ?_ _ List.mem_cons_self
    exact List.mem_flatMap.mpr ⟨clean.turn, List.mem_map_of_mem member, List.mem_cons_self⟩
  · exact Int.le_of_eq (by rw [List.mem_singleton.mp member])

/-- In a chronological run each wait keeps the idle time from the newest clean round until then, and
from its own round if that was clean or none was yet. A round that failed after a clean one is
followed without a wait exactly when the idle time since the clean one has passed and the lag asks
for no more. -/
theorem waits_count_from_newest_clean [Surroundings E] {settings : Settings} {hostName : String}
    {surroundings : E} {agent : Agent E} {events : List Event}
    (accepted : start settings hostName surroundings = .ok (agent, events))
    (forward : 0 ≤ settings.idleMillis) {turns : List Turn} (ordered : Chronological turns)
    {earlier later : List (Cycle E)} {cycle next : Cycle E}
    (followed : (agent.run turns).cycles = earlier ++ cycle :: next :: later) :
    ∃ millis, cycle.next = .wait millis ∧
      (newestClean (earlier ++ [cycle]) = none → millis = settings.idleMillis.toInt) ∧
      (newestClean (earlier ++ [cycle]) = none ∨ cycle.isClean →
        Spaced settings.idleMillis cycle.turn.stamp cycle.turn.asked millis) ∧
      ∀ last, newestClean (earlier ++ [cycle]) = some last →
        Spaced settings.idleMillis last cycle.turn.asked millis ∧
          (millis = 0 ↔ settings.idleMillis.toInt ≤ cycle.turn.asked.millisBetween last ∧
            (settings.pacing last).slowdown (cycle.turn.asked.millisBetween last) ≤ 0) := by
  have fresh := fresh_start accepted
  have waiting := next_run agent turns followed
  obtain ⟨asking, marks⟩ := ordered_run agent ordered followed
  have positive : 0 ≤ settings.idleMillis.toInt := Int64.le_iff_toInt_le.mp forward
  rw [fresh.settings_eq, fresh.unmarked, Option.or_none] at waiting
  refine ⟨_, waiting, ?_⟩
  cases newest : newestClean (earlier ++ [cycle]) with
  | none =>
    have idle : ((settings.pacing none).wait cycle.turn.asked).toInt.toNat =
        settings.idleMillis.toInt := by
      rw [Pacing.wait_uncalled rfl]
      exact Int.toNat_of_nonneg positive
    refine ⟨fun _ => idle, fun _ => ?_, by rintro _ ⟨⟩⟩
    unfold Spaced
    rw [idle]
    omega
  | some last =>
    have value := @Pacing.toInt_wait (settings.pacing last) last rfl cycle.turn.asked
    have passed := Time.Instant.millisBetween_le (Int.le_trans (marks last newest) asking)
    have spaced : Spaced settings.idleMillis last cycle.turn.asked
        ((settings.pacing last).wait cycle.turn.asked).toInt.toNat := by
      unfold Spaced
      rw [value]
      simp only [Settings.pacing, Time.nanosPerMilli] at passed ⊢
      omega
    refine ⟨by rintro ⟨⟩, ?_, ?_⟩
    · rintro (missing | clean)
      · cases missing
      -- A clean round has moved the mark to its own stamp.
      · rw [newestClean_concat_clean earlier clean] at newest
        cases newest
        exact spaced
    · rintro _ ⟨⟩
      refine ⟨spaced, ?_⟩
      rw [value]
      simp only [Settings.pacing]
      omega

/-- The table of the interface is there for one round and gone from then on. -/
def fading : Observations where
  current := ⟨.missing, .zero⟩
  ahead :=
    [⟨.text "a\nb\neth0: 5 0 0 0 0 0 0 0 7\n", .zero⟩,
      ⟨.text "a\nb\neth0: 5 0 0 0 0 0 0 0 7\n", .zero⟩, ⟨.missing, .zero⟩]

def turnAt (second : Fin 60) : Turn :=
  let moment : Time.Instant :=
    { Time.Instant.epoch with
      seconds := second.val
      first_le := by omega
      le_last := by omega }
  { stamp := moment, asked := moment, interrupted := false }

def everySecond : List Turn := [turnAt 0, turnAt 1, turnAt 2]

/-- Two rounds fail after a clean one. -/
theorem run_fading : ∃ agent events first second third,
    start {} "host" fading = .ok (agent, events) ∧
      (agent.run everySecond).cycles = [first, second, third] ∧
      [first, second, third].map Cycle.turn = everySecond ∧
      [first, second, third].map Cycle.isClean = [true, false, false] ∧
      [first, second, third].map Cycle.next = [.wait 1000, .wait 0, .wait 0] := by
  have shown : (match start {} "host" fading with
      | .ok (agent, _) => (agent.run everySecond).cycles.map fun cycle =>
          (cycle.turn, cycle.isClean, cycle.next)
      | .error _ => []) =
        [(turnAt 0, true, .wait 1000), (turnAt 1, false, .wait 0), (turnAt 2, false, .wait 0)] := by
    decide +kernel
  cases accepted : start {} "host" fading with
  | error fault =>
    rw [accepted] at shown
    cases shown
  | ok started =>
    obtain ⟨agent, events⟩ := started
    rw [accepted] at shown
    obtain ⟨first, _, cycles, firstShown, shown⟩ := List.map_eq_cons_iff.mp shown
    obtain ⟨second, _, rfl, secondShown, shown⟩ := List.map_eq_cons_iff.mp shown
    obtain ⟨third, _, rfl, thirdShown, shown⟩ := List.map_eq_cons_iff.mp shown
    obtain rfl := List.map_eq_nil_iff.mp shown
    simp only [Prod.mk.injEq] at firstShown secondShown thirdShown
    refine ⟨agent, events, first, second, third, rfl, cycles, ?_, ?_, ?_⟩ <;>
      simp [firstShown, secondShown, thirdShown, everySecond]

theorem chronological_everySecond : Chronological everySecond := by
  unfold Chronological
  decide

/-- The second round fails a whole idle time after the clean one, and the third follows at once. -/
theorem waits_count_from_newest_clean_fading :
    ∃ (agent : Agent Observations) (events : List Event) (clean failing next : Cycle Observations),
      start {} "host" fading = .ok (agent, events) ∧ (0 : Int64) ≤ ({} : Settings).idleMillis ∧
        Chronological everySecond ∧
        (agent.run everySecond).cycles = [clean] ++ failing :: next :: [] ∧
        newestClean [clean, failing] = some Time.Instant.epoch ∧
        ∃ millis, failing.next = .wait millis ∧
          Spaced 1000 Time.Instant.epoch failing.turn.asked millis ∧ millis = 0 := by
  obtain ⟨agent, events, clean, failing, next, accepted, cycles, turns, succeeded, -⟩ := run_fading
  simp only [List.map_cons, List.map_nil, everySecond, List.cons.injEq, and_true] at turns succeeded
  have newest : newestClean [clean, failing] = some Time.Instant.epoch := by
    rw [newestClean_cons, newestClean_cons, succeeded.1, succeeded.2.1, turns.1]
    rfl
  have followed : (agent.run everySecond).cycles = [clean] ++ failing :: next :: [] := cycles
  obtain ⟨millis, waiting, -, -, counted⟩ := waits_count_from_newest_clean accepted (by decide)
    chronological_everySecond followed
  obtain ⟨spaced, atOnce⟩ := counted _ newest
  refine ⟨agent, events, clean, failing, next, accepted, by decide, chronological_everySecond,
    followed, newest, millis, waiting, spaced, atOnce.mpr ?_⟩
  rw [turns.2.1]
  decide

/-- A failing round is followed without a wait, less than the idle time after its own stamp. -/
theorem failing_round_not_spaced :
    ∃ (agent : Agent Observations) (events : List Event) (clean failing next : Cycle Observations),
      start {} "host" fading = .ok (agent, events) ∧ Chronological everySecond ∧
        (agent.run everySecond).cycles = [clean, failing, next] ∧ failing.next = .wait 0 ∧
        ({} : Settings).idleMillis = 1000 ∧
        ¬Spaced 1000 failing.turn.stamp failing.turn.asked 0 := by
  obtain ⟨agent, events, clean, failing, next, accepted, cycles, turns, -, waits⟩ := run_fading
  simp only [List.map_cons, List.map_nil, everySecond, List.cons.injEq, and_true] at turns waits
  refine ⟨agent, events, clean, failing, next, accepted, chronological_everySecond, cycles,
    waits.2.1, rfl, ?_⟩
  rw [Spaced, turns.2.1]
  decide

end Agent

end WorkerVitals
