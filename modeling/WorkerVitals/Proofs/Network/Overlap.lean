import Mathlib.Logic.Relation
import WorkerVitals.Proofs.Network.Capture

/-! Captures of one probe that overlap. Each goes through three sections, between which anything may
happen: it reads the table, replaces the counters, and laps the stopwatch. Since the table is read
before the counters are locked, a capture may store counters older than those it replaces. The bytes
of such a step back are counted twice more; apart from that all captures together count what was
moved once. -/
namespace WorkerVitals.Network

variable {C : Type} [Time.Ticker C]

/-- How far one of several captures has come. -/
inductive Stage where
  | waiting
  | read (counters : Counters)
  | replaced (delta : Counters)
  | finished (delta : Counters) (capture : Capture)

def Stage.moved (direction : Direction) : Stage → Nat
  | .waiting | .read _ => 0
  | .replaced delta | .finished delta _ => (delta.get direction).toNat

/-- Captures of one probe under way, with all counters stored so far, the oldest first. -/
structure Overlap (C : Type) where
  probe : Probe
  table : File.Content
  clock : C
  stages : List Stage
  stored : List Counters := []

namespace Overlap

/-- The bytes that all captures together have found. -/
def moved (overlap : Overlap C) (direction : Direction) : Nat :=
  (overlap.stages.map (Stage.moved direction)).sum

def start (probe : Probe) (table : File.Content) (clock : C) (captures : Nat) : Overlap C :=
  { probe, table, clock, stages := .replicate captures .waiting }

/-- One section of one capture, a change of the table in which no counter goes back, or time. -/
inductive Step : Overlap C → Overlap C → Prop where
  | read {overlap : Overlap C} {place : Nat} {counters : Counters}
      (waits : overlap.stages[place]? = some .waiting)
      (shown : overlap.probe.readCounters overlap.table = .ok counters) :
      Step overlap { overlap with stages := overlap.stages.set place (.read counters) }
  | replace {overlap : Overlap C} {place : Nat} {counters : Counters}
      (holds : overlap.stages[place]? = some (.read counters)) :
      Step overlap
        { overlap with
          probe := (overlap.probe.replaceCounters counters).2
          stages := overlap.stages.set place
            (.replaced (overlap.probe.replaceCounters counters).1)
          stored := overlap.stored ++ [counters] }
  | finish {overlap : Overlap C} {place : Nat} {delta : Counters}
      (holds : overlap.stages[place]? = some (.replaced delta)) :
      Step overlap
        { overlap with
          probe := (overlap.probe.finish delta overlap.clock).2.1
          clock := (overlap.probe.finish delta overlap.clock).2.2
          stages := overlap.stages.set place
            (.finished delta (overlap.probe.finish delta overlap.clock).1) }
  | update {overlap : Overlap C} {table : File.Content} {before after : Counters}
      (shown : overlap.probe.readCounters overlap.table = .ok before)
      (shows : overlap.probe.readCounters table = .ok after)
      (grows : ∀ direction, before.get direction ≤ after.get direction) :
      Step overlap { overlap with table }
  | elapse {overlap : Overlap C} (clock : C) : Step overlap { overlap with clock }

/-- Three sections of one capture with nothing in between are a capture. -/
theorem undisturbed_capture {overlap : Overlap C} {place : Nat} {counters : Counters}
    (waits : overlap.stages[place]? = some .waiting)
    (shown : overlap.probe.readCounters overlap.table = .ok counters) :
    ∃ after, Relation.ReflTransGen Step overlap after ∧
      after.stages = overlap.stages.set place
        (.finished (overlap.probe.replaceCounters counters).1
          (overlap.probe.capture overlap.table overlap.clock).1) ∧
      (after.probe, after.clock) = (overlap.probe.capture overlap.table overlap.clock).2 := by
  obtain ⟨within, _⟩ := List.getElem?_eq_some_iff.mp waits
  have read := Relation.ReflTransGen.refl.tail (Step.read waits shown)
  have replaced := read.tail (.replace (List.getElem?_set_self within))
  have finished := replaced.tail (.finish (List.getElem?_set_self (by simpa using within)))
  refine ⟨_, finished, ?_, ?_⟩
  · simp [Probe.capture_sections, shown]
  · simp [Probe.capture_sections, shown]

/-- The distances between counters stored one after the other. -/
def travelled (direction : Direction) : List Counters → Nat
  | earlier :: later :: rest =>
    (Counters.distance (later.get direction) (earlier.get direction)).toNat +
      travelled direction (later :: rest)
  | _ => 0

/-- How far counters stored one after the other went back. -/
def steppedBack (direction : Direction) : List Counters → Nat
  | earlier :: later :: rest =>
    ((earlier.get direction).toNat - (later.get direction).toNat) +
      steppedBack direction (later :: rest)
  | _ => 0

theorem travelled_concat (direction : Direction) (stored : List Counters) (newest : Counters) :
    travelled direction (stored ++ [newest]) = travelled direction stored +
      (stored.getLast?.elim 0 fun last =>
        (Counters.distance (newest.get direction) (last.get direction)).toNat) := by
  induction stored with
  | nil => rfl
  | cons first rest ih =>
    cases rest with
    | nil => simp [travelled]
    | cons second rest =>
      simp only [List.cons_append, travelled, List.getLast?_cons_cons] at ih ⊢
      rw [ih]
      omega

/-- Every step back is made up for by a step forward. -/
theorem travelled_add_first {direction : Direction} {stored : List Counters}
    {first last : Counters} (oldest : stored.head? = some first)
    (newest : stored.getLast? = some last) :
    travelled direction stored + (first.get direction).toNat =
      (last.get direction).toNat + 2 * steppedBack direction stored := by
  induction stored generalizing first with
  | nil => cases oldest
  | cons head rest ih =>
    cases oldest
    cases rest with
    | nil =>
      cases newest
      simp [travelled, steppedBack]
    | cons second rest =>
      rw [List.getLast?_cons_cons] at newest
      have later := ih rfl newest
      simp only [travelled, steppedBack, Counters.toNat_distance]
      omega

theorem steppedBack_eq_zero {direction : Direction} {stored : List Counters} :
    steppedBack direction stored = 0 ↔
      stored.IsChain fun earlier later => earlier.get direction ≤ later.get direction := by
  induction stored with
  | nil => simp [steppedBack]
  | cons first rest ih =>
    cases rest with
    | nil => simp [steppedBack]
    | cons second rest =>
      simp only [steppedBack, Nat.add_eq_zero_iff, ih, List.isChain_cons_cons,
        UInt64.le_iff_toNat_le, Nat.sub_eq_zero_iff_le]

/-- What the sections of the captures keep true: all that was read and stored is within what the
table shows, and what was found is the way that the stored counters went. -/
structure Accounted (overlap : Overlap C) (shown : Counters) : Prop where
  shows : overlap.probe.readCounters overlap.table = .ok shown
  held : ∀ counters, .read counters ∈ overlap.stages → ∀ direction,
    counters.get direction ≤ shown.get direction
  stored : ∀ counters ∈ overlap.stored, ∀ direction,
    counters.get direction ≤ shown.get direction
  remembered : overlap.probe.lastCounters = overlap.stored.getLast?
  found : ∀ direction, overlap.moved direction = travelled direction overlap.stored

private theorem sum_set {stages : List Stage} {place : Nat} {old : Stage}
    (there : stages[place]? = some old) (new : Stage) (count : Stage → Nat) :
    ((stages.set place new).map count).sum + count old = (stages.map count).sum + count new := by
  induction stages generalizing place with
  | nil => cases there
  | cons head rest ih =>
    cases place with
    | zero =>
      cases there
      simp only [List.set_cons_zero, List.map_cons, List.sum_cons]
      omega
    | succ place =>
      have later := ih there
      simp only [List.set_cons_succ, List.map_cons, List.sum_cons]
      omega

private theorem toNat_replaceCounters (probe : Probe) (counters : Counters)
    (direction : Direction) :
    ((probe.replaceCounters counters).1.get direction).toNat =
      (probe.lastCounters.elim 0 fun last =>
        (Counters.distance (counters.get direction) (last.get direction)).toNat) := by
  unfold Probe.replaceCounters
  cases probe.lastCounters with
  | none => cases direction <;> rfl
  | some last => rw [Counters.get_between, Option.elim_some]

theorem Accounted.step {overlap after : Overlap C} {shown : Counters}
    (accounted : overlap.Accounted shown) (step : Step overlap after) :
    ∃ shown, after.Accounted shown := by
  obtain ⟨shows, held, stored, remembered, found⟩ := accounted
  cases step with
  | @read place counters waits reads =>
    obtain rfl : shown = counters := Except.ok.inj (shows.symm.trans reads)
    refine ⟨shown, shows, ?_, stored, remembered, ?_⟩
    · intro counters member direction
      rcases List.mem_or_eq_of_mem_set member with earlier | fresh
      · exact held counters earlier direction
      · cases fresh
        exact UInt64.le_refl _
    · intro direction
      have counted := sum_set waits (.read shown) (Stage.moved direction)
      exact counted.trans (found direction)
  | @replace place counters holds =>
    -- The counters that are stored were read earlier, perhaps from a lower table than those they
    -- replace: only the distance between the two is known, and it enters both sides of the account.
    have within := held counters (List.mem_of_getElem? holds)
    refine ⟨shown, by simpa using shows, ?_, ?_, ?_, ?_⟩
    · intro other member direction
      rcases List.mem_or_eq_of_mem_set member with earlier | fresh
      · exact held other earlier direction
      · cases fresh
    · intro other member direction
      rcases List.mem_append.mp member with earlier | fresh
      · exact stored other earlier direction
      · rw [List.mem_singleton.mp fresh]
        exact within direction
    · simp [Probe.replaceCounters]
    · intro direction
      have counted := sum_set holds (.replaced (overlap.probe.replaceCounters counters).1)
        (Stage.moved direction)
      have delta := toNat_replaceCounters overlap.probe counters direction
      rw [remembered] at delta
      rw [travelled_concat, ← found, ← delta]
      exact counted
  | @finish place delta holds =>
    refine ⟨shown, by simpa using shows, ?_, stored, by simpa using remembered, ?_⟩
    · intro other member direction
      rcases List.mem_or_eq_of_mem_set member with earlier | fresh
      · exact held other earlier direction
      · cases fresh
    · intro direction
      have counted := sum_set holds
        (.finished delta (overlap.probe.finish delta overlap.clock).1) (Stage.moved direction)
      exact (Nat.add_right_cancel counted).trans (found direction)
  | @update table before after reads shows' grows =>
    obtain rfl : shown = before := Except.ok.inj (shows.symm.trans reads)
    refine ⟨after, shows', ?_, ?_, remembered, found⟩
    · intro counters member direction
      exact UInt64.le_trans (held counters member direction) (grows direction)
    · intro counters member direction
      exact UInt64.le_trans (stored counters member direction) (grows direction)
  | elapse clock => exact ⟨shown, shows, held, stored, remembered, found⟩

theorem exists_accounted {direction : Direction} {ceiling : Ceiling} {config : Config}
    {probe : Probe} (made : Probe.of direction ceiling config = .ok probe) {table : File.Content}
    {counters : Counters} (shown : probe.readCounters table = .ok counters) {clock : C}
    {captures : Nat} {overlap : Overlap C}
    (run : Relation.ReflTransGen Step (start probe table clock captures) overlap) :
    ∃ now, overlap.Accounted now := by
  induction run with
  | refl =>
    obtain ⟨_, rfl⟩ := Probe.of_eq_ok made
    refine ⟨counters, shown, ?_, by simp [start], rfl, ?_⟩
    · intro other member
      cases List.eq_of_mem_replicate member
    · intro direction
      simp [moved, start, Stage.moved, travelled]
  | tail _ step ih =>
    obtain ⟨now, accounted⟩ := ih
    exact accounted.step step

/-- Whatever order the sections of overlapping captures come in, what the captures find together is
the way from the first stored counters to the last ones, and twice what the stored counters stepped
back. So no byte is counted twice as long as no capture stores less than it replaces. -/
theorem moved_eq_net_add_steppedBack {direction : Direction} {ceiling : Ceiling} {config : Config}
    {probe : Probe} (made : Probe.of direction ceiling config = .ok probe) {table : File.Content}
    {counters : Counters} (shown : probe.readCounters table = .ok counters) {clock : C}
    {captures : Nat} {overlap : Overlap C}
    (run : Relation.ReflTransGen Step (start probe table clock captures) overlap) :
    ∃ now, overlap.probe.readCounters overlap.table = .ok now ∧
      (overlap.stored = [] → ∀ way, overlap.moved way = 0) ∧
      ∀ first last, overlap.stored.head? = some first → overlap.stored.getLast? = some last →
        ∀ way, last.get way ≤ now.get way ∧
          overlap.moved way + (first.get way).toNat =
            (last.get way).toNat + 2 * steppedBack way overlap.stored ∧
          overlap.moved way + (first.get way).toNat ≤
            (now.get way).toNat + 2 * steppedBack way overlap.stored ∧
          ((overlap.stored.IsChain fun earlier later => earlier.get way ≤ later.get way) →
            overlap.moved way + (first.get way).toNat ≤ (now.get way).toNat) := by
  obtain ⟨now, accounted⟩ := exists_accounted made shown run
  refine ⟨now, accounted.shows, ?_, ?_⟩
  · intro none way
    rw [accounted.found, none]
    rfl
  · intro first last oldest newest way
    have within := accounted.stored last (List.mem_of_getLast? newest) way
    have bound := UInt64.le_iff_toNat_le.mp within
    have net : overlap.moved way + (first.get way).toNat =
        (last.get way).toNat + 2 * steppedBack way overlap.stored := by
      rw [accounted.found]
      exact travelled_add_first oldest newest
    refine ⟨within, net, by omega, ?_⟩
    intro chain
    rw [steppedBack_eq_zero.mpr chain] at net
    omega

/-- A table, and the same one when two bytes more were received. -/
def lower : File.Content := .text "a\nb\neth0: 1 0 0 0 0 0 0 0 7\n"
def upper : File.Content := .text "a\nb\neth0: 3 0 0 0 0 0 0 0 7\n"

private theorem reads_lower : Probe.inbound.readCounters lower = .ok ⟨1, 7⟩ := by cbv

private theorem reads_upper : Probe.inbound.readCounters upper = .ok ⟨3, 7⟩ := by cbv

private theorem lower_grows :
    ∀ direction, (⟨1, 7⟩ : Counters).get direction ≤ (⟨3, 7⟩ : Counters).get direction
  | .received => by decide
  | .transmitted => by decide

/-- Two captures that store in the order in which they read. -/
theorem moved_eq_net_add_steppedBack_inOrder :
    ∃ overlap : Overlap Time.Clock,
      Relation.ReflTransGen Step (start Probe.inbound lower .steady 2) overlap ∧
        overlap.stored = [⟨1, 7⟩, ⟨3, 7⟩] ∧ overlap.moved .received + 1 = 3 := by
  have made : Probe.of .received Probe.inbound.ceiling {} = .ok Probe.inbound :=
    dif_pos (by decide)
  have run := Relation.ReflTransGen.refl
    |>.tail (@Step.read _ _ (start Probe.inbound lower Time.Clock.steady 2) 0 _ rfl reads_lower)
    |>.tail (.update reads_lower reads_upper lower_grows)
    |>.tail (@Step.read _ _ _ 1 _ rfl reads_upper)
    |>.tail (@Step.replace _ _ _ 0 _ rfl)
    |>.tail (@Step.replace _ _ _ 1 _ rfl)
  obtain ⟨now, -, -, accounted⟩ := moved_eq_net_add_steppedBack made reads_lower run
  exact ⟨_, run, rfl, (accounted ⟨1, 7⟩ ⟨3, 7⟩ rfl rfl .received).2.1⟩

/-- Two captures that cross: the second reads later and stores first. Together they find two bytes,
and none was moved since counters were first stored. -/
theorem crossing_counts_twice :
    ∃ overlap : Overlap Time.Clock,
      Relation.ReflTransGen Step (start Probe.inbound lower .steady 2) overlap ∧
        (∀ stage ∈ overlap.stages, ∃ delta capture, stage = .finished delta capture) ∧
        overlap.probe.readCounters overlap.table = .ok ⟨3, 7⟩ ∧
        overlap.stored = [⟨3, 7⟩, ⟨1, 7⟩] ∧ overlap.moved .received = 2 ∧
        ¬overlap.moved .received ≤ 3 - 3 := by
  have run := Relation.ReflTransGen.refl
    |>.tail (@Step.read _ _ (start Probe.inbound lower Time.Clock.steady 2) 0 _ rfl reads_lower)
    |>.tail (.update reads_lower reads_upper lower_grows)
    |>.tail (@Step.read _ _ _ 1 _ rfl reads_upper)
    |>.tail (@Step.replace _ _ _ 1 _ rfl)
    |>.tail (@Step.replace _ _ _ 0 _ rfl)
    |>.tail (@Step.finish _ _ _ 1 _ rfl)
    |>.tail (@Step.finish _ _ _ 0 _ rfl)
  refine ⟨_, run, ?_, reads_upper, rfl, by decide, by decide⟩
  intro stage member
  rcases List.mem_pair.mp member with rfl | rfl <;> exact ⟨_, _, rfl⟩

end Overlap

end WorkerVitals.Network
