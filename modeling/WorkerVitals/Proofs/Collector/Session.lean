import WorkerVitals.Proofs.Collector.Round
import WorkerVitals.Publisher

/-! Sessions: a collector in use. Rounds alternate in any order with captures outside of them, with
snapshots and their publication, and with changes of the world. -/
namespace WorkerVitals

/-- What can happen to a collector in use. -/
inductive Move (W : Type) where
  | round
  /-- A capture outside of the rounds of a metric at hand, registered or not. -/
  | capture (metric : Metric W)
  /-- A capture outside of the rounds of what the registry has under a short name. -/
  | captureNamed (shortName : String)
  | snapshot (workerId : String) (time : Int64)
  | publish
  /-- The world changes by itself. -/
  | elapse (change : W → W)

structure Session (W : Type) where
  collector : Collector W
  world : W
  lastSnapshot : Snapshot := {}
  events : List Event := []

namespace Session

variable {W : Type}

def capture (session : Session W) (metric : Metric W) : Session W :=
  { session with
    world := (metric.capture session.world).2
    events := session.events ++ (metric.capture session.world).1.events }

/-- A round whose clock fails ends there; what it did until then stays. -/
def step (session : Session W) : Move W → Session W
  | .round =>
    let ended := session.collector.captureAll session.world
    { session with
      collector := ended.collector
      world := ended.world
      events := session.events ++ ended.events }
  | .capture metric => session.capture metric
  | .captureNamed shortName =>
    match session.collector.registry.getByShortName? shortName with
    | some metric => session.capture metric
    | none => session
  | .snapshot workerId time =>
    { session with lastSnapshot := session.collector.snapshot workerId time }
  | .publish => { session with events := session.events ++ session.lastSnapshot.publish }
  | .elapse change => { session with world := change session.world }

def run (session : Session W) (moves : List (Move W)) : Session W := moves.foldl step session

/-- The session as each round finds it, in order. -/
def roundStarts (session : Session W) : List (Move W) → List (Session W)
  | [] => []
  | .round :: rest => session :: (session.step .round).roundStarts rest
  | move :: rest => (session.step move).roundStarts rest

def obtained (session : Session W) : List Obtained :=
  obtainedFrom session.collector.registry.metrics session.world

/-- The outcomes that the rounds of a session obtain, in order. -/
def outcomes (session : Session W) (moves : List (Move W)) : List Obtained :=
  (session.roundStarts moves).flatMap obtained

/-- What the rounds of a session return; a round whose clock fails returns nothing. -/
def rounds (session : Session W) (moves : List (Move W)) : List (Option Round) :=
  (session.roundStarts moves).map fun start => (start.collector.captureAll start.world).round

/-- Only rounds touch the collector. -/
theorem collector_step (session : Session W) {move : Move W} (outside : move ≠ .round) :
    (session.step move).collector = session.collector := by
  cases move with
  | round => exact absurd rfl outside
  | captureNamed shortName =>
    simp only [step]
    split <;> rfl
  | _ => rfl

theorem roundStarts_outside (session : Session W) {move : Move W} (outside : move ≠ .round)
    (rest : List (Move W)) :
    session.roundStarts (move :: rest) = (session.step move).roundStarts rest := by
  cases move with
  | round => exact absurd rfl outside
  | _ => rfl

theorem frame_step (session : Session W) (move : Move W) :
    (session.step move).collector.registry = session.collector.registry ∧
      (session.step move).collector.limit = session.collector.limit := by
  by_cases within : move = .round
  · subst within
    exact ⟨rfl, rfl⟩
  · rw [collector_step session within]
    exact ⟨rfl, rfl⟩

theorem run_cons (session : Session W) (move : Move W) (rest : List (Move W)) :
    session.run (move :: rest) = (session.step move).run rest := rfl

theorem frame_run (session : Session W) (moves : List (Move W)) :
    (session.run moves).collector.registry = session.collector.registry ∧
      (session.run moves).collector.limit = session.collector.limit := by
  induction moves generalizing session with
  | nil => exact ⟨rfl, rfl⟩
  | cons move rest ih =>
    obtain ⟨registry, limit⟩ := frame_step session move
    rw [run_cons, ← registry, ← limit]
    exact ih _

/-- A round pushes what it obtains onto the newest values of each kind. -/
theorem history_round {session : Session W} {kind : Kind} {values : List Float}
    (kept : session.collector.history kind = newest? session.collector.limit values) :
    (session.step .round).collector.history kind =
      newest? session.collector.limit (values ++ valuesOf kind session.obtained) := by
  have recorded := Progress.captureEach_obtained session.collector.limit
    { world := session.world, history := session.collector.history }
    session.collector.registry.metrics
  exact (congrFun recorded.1 kind).trans (foldl_record session.collector.limit_pos _ _ kept)

theorem history_run {session : Session W} {kind : Kind} {values : List Float}
    (kept : session.collector.history kind = newest? session.collector.limit values)
    (moves : List (Move W)) :
    (session.run moves).collector.history kind =
      newest? session.collector.limit (values ++ valuesOf kind (session.outcomes moves)) := by
  induction moves generalizing session values with
  | nil => simpa [valuesOf, outcomes, roundStarts, run] using kept
  | cons move rest ih =>
    have limit := (frame_step session move).2
    rw [run_cons, ← limit]
    by_cases within : move = .round
    · subst within
      rw [ih (history_round kept)]
      simp [outcomes, roundStarts, valuesOf]
    · have kept : (session.step move).collector.history kind =
          newest? (session.step move).collector.limit values := by
        rw [collector_step session within, kept]
      rw [ih kept, outcomes, outcomes, roundStarts_outside session within]

end Session

end WorkerVitals
