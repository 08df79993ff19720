import WorkerVitals.Proofs.Collector.Failing

namespace WorkerVitals

variable {W : Type}

def Event.isFailure : Event → Bool
  | .captureFailed .. => true
  | _ => false

/-- One of several captures that are made in turn. -/
structure Taken (W : Type) where
  metric : Metric W
  capture : Capture

/-- Captures of metrics in turn, each once and in the world that the one before it left. -/
def takenFrom : List (Metric W) → W → List (Taken W)
  | [], _ => []
  | metric :: rest, world =>
    ⟨metric, (metric.capture world).1⟩ :: takenFrom rest (metric.capture world).2

@[simp] theorem map_metric_takenFrom (metrics : List (Metric W)) (world : W) :
    (takenFrom metrics world).map Taken.metric = metrics := by
  induction metrics generalizing world with
  | nil => rfl
  | cons metric rest ih => rw [takenFrom, List.map_cons, ih]

def worldAfter (metrics : List (Metric W)) (world : W) : W :=
  metrics.foldl (fun world metric => (metric.capture world).2) world

namespace Taken

/-- The number that stands for a capture in a round. -/
inductive Gives (taken : Taken W) : Float → Prop where
  | failed {fault : Fault} (outcome : taken.capture.outcome = some (.error fault)) : Gives taken (-1)
  | sampled {sample : Sample} (outcome : taken.capture.outcome = some (.ok sample))
    (nonneg : 0 ≤ sample.value) (le_hundred : sample.value ≤ 100) : Gives taken sample.value

/-- The warning for a capture that failed, with its fault. -/
def warning? (taken : Taken W) : Option Event :=
  match taken.capture.outcome with
  | some (.error fault) => some (.captureFailed taken.metric.kind fault)
  | _ => none

def logged (taken : Taken W) : List Event := taken.capture.events ++ taken.warning?.toList

def Came (taken : Taken W) (obtained : Obtained) : Prop :=
  taken.metric.kind = obtained.1 ∧ taken.capture.outcome = some obtained.2

variable {taken : Taken W} {obtained : Obtained}

theorem Came.gives (came : taken.Came obtained) : taken.Gives obtained.value := by
  obtain ⟨-, outcome⟩ := came
  obtain ⟨kind, result⟩ := obtained
  cases result with
  | ok sample => exact .sampled outcome sample.nonneg sample.le_hundred
  | error fault => exact .failed outcome

theorem Came.isSome_warning? (came : taken.Came obtained) :
    taken.warning?.isSome = (obtained.value == failureMark) := by
  obtain ⟨-, outcome⟩ := came
  obtain ⟨kind, result⟩ := obtained
  cases result with
  | ok sample =>
    rw [warning?, outcome]
    exact sample.value_ne_failureMark.symm
  | error fault =>
    rw [warning?, outcome]
    exact mark_is_mark.symm

theorem length_filterMap_warning? {all : List (Taken W)} {log : List Obtained}
    (came : List.Forall₂ Came all log) :
    (all.filterMap warning?).length = log.countP fun obtained => obtained.value == failureMark := by
  induction came with
  | nil => rfl
  | @cons taken obtained all log here _ ih =>
    have warned := here.isSome_warning?
    rw [List.countP_cons, ← warned, ← ih]
    cases warning : taken.warning? <;> simp [warning]

theorem filter_logged (taken : Taken W)
    (silent : ∀ event ∈ taken.capture.events, event.isFailure = false) :
    taken.logged.filter Event.isFailure = taken.warning?.toList := by
  have own : taken.capture.events.filter Event.isFailure = [] := by
    apply List.filter_eq_nil_iff.mpr
    intro event member
    rw [silent event member]
    exact Bool.false_ne_true
  have warning : taken.warning?.toList.filter Event.isFailure = taken.warning?.toList := by
    unfold warning?
    split <;> rfl
  rw [logged, List.filter_append, own, warning, List.nil_append]

/-- When captures log no failures themselves, the warnings are all the failures there are in a log,
in the order of the captures. -/
theorem filter_flatMap_logged {all : List (Taken W)}
    (silent : ∀ taken ∈ all, ∀ event ∈ taken.capture.events, event.isFailure = false) :
    (all.flatMap logged).filter Event.isFailure = all.filterMap warning? := by
  induction all with
  | nil => rfl
  | cons taken rest ih =>
    have here := taken.filter_logged (silent taken List.mem_cons_self)
    have later := ih fun other member => silent other (List.mem_cons_of_mem _ member)
    rw [List.flatMap_cons, List.filter_append, here, later]
    cases warning : taken.warning? <;> simp [warning]

end Taken

namespace Round

theorem failures_eq_countP_values (log : List Obtained) :
    (ofObtained log).failures = (ofObtained log).values.countP fun entry => entry.2 == -1 := by
  rw [failures_ofObtained, values_ofObtained, List.countP_map]
  rfl

theorem isClean_ofObtained_iff (log : List Obtained) :
    (ofObtained log).isClean = true ↔ ∀ entry ∈ (ofObtained log).values, (entry.2 == -1) = false := by
  rw [isClean, failures_eq_countP_values, decide_eq_true_eq, List.countP_eq_zero]
  simp only [Bool.not_eq_true]

end Round

namespace Progress

/-- A round that completes takes its captures in turn, and logs all of them. -/
theorem captureEach_completed {limit : Nat} {progress : Progress W} {metrics : List (Metric W)}
    (completed : (progress.captureEach limit metrics).2 = true) :
    (progress.captureEach limit metrics).1.world = worldAfter metrics progress.world ∧
      (progress.captureEach limit metrics).1.events =
        progress.events ++ (takenFrom metrics progress.world).flatMap Taken.logged ∧
      List.Forall₂ Taken.Came (takenFrom metrics progress.world)
        (obtainedFrom metrics progress.world) := by
  induction metrics generalizing progress with
  | nil => simp [captureEach, worldAfter, takenFrom, obtainedFrom]
  | cons metric rest ih =>
    cases result : (metric.capture progress.world).1.outcome with
    | none =>
      rw [captureEach, capture_failed result] at completed
      cases completed
    | some outcome =>
      have step : progress.captureEach limit (metric :: rest) = Progress.captureEach limit
          { world := (metric.capture progress.world).2
            history := progress.history.record limit metric.kind (recorded outcome)
            round := progress.round.add metric.kind outcome
            events := progress.events ++ (metric.capture progress.world).1.events ++
              failureEvents metric.kind outcome } rest := by
        simp only [captureEach, capture_obtained result]
      have logged : (⟨metric, (metric.capture progress.world).1⟩ : Taken W).logged =
          (metric.capture progress.world).1.events ++ failureEvents metric.kind outcome := by
        cases outcome <;> simp [Taken.logged, Taken.warning?, result, failureEvents]
      rw [step] at completed ⊢
      obtain ⟨world, events, came⟩ := ih completed
      simp only [takenFrom, obtainedFrom, result, List.flatMap_cons, logged]
      refine ⟨world, ?_, .cons ⟨rfl, result⟩ came⟩
      rw [events]
      simp only [List.append_assoc]

end Progress

namespace Collector

variable {collector : Collector W} {world : W} {round : Round}

/-- A value in a round that was just completed is the newest one in its history. -/
theorem latestValue_captureAll
    (completed : (collector.captureAll world).round = some round) {kind : Kind} {value : Float}
    (listed : (kind, value) ∈ round.values) (workerId : String) (time : Int64) :
    ((collector.captureAll world).collector.snapshot workerId time).latestValue kind.shortName =
      some value := by
  let log := obtainedFrom collector.registry.metrics world
  obtain ⟨kinds, rfl⟩ := @Session.round_captureAll W { collector, world } round completed
  obtain ⟨recorded, -⟩ := Progress.captureEach_obtained collector.limit
    { world, history := collector.history } collector.registry.metrics
  rw [Round.values_ofObtained] at listed
  obtain ⟨obtained, (member : obtained ∈ log), same⟩ := List.mem_map.mp listed
  obtain ⟨rfl, rfl⟩ := Prod.mk.inj same
  have distinct : (log.map Prod.fst).Nodup := kinds ▸ collector.registry.nodup_kinds_metrics
  have single : (valuesOf obtained.1 log).length = 1 := by
    rw [length_valuesOf distinct, if_pos (List.mem_map_of_mem member)]
  obtain ⟨only, values⟩ := List.length_eq_one_iff.mp single
  have there : obtained.value ∈ valuesOf obtained.1 log :=
    mem_valuesOf.mpr ⟨obtained, member, rfl, rfl⟩
  obtain rfl : obtained.value = only := by simpa [values] using there
  have newest : ((collector.captureAll world).collector.history obtained.1).bind List.getLast? =
      some obtained.value := by
    refine (congrArg (Option.bind · List.getLast?) (congrFun recorded obtained.1)).trans ?_
    rw [getLast?_foldl_record, show valuesOf obtained.1 log = _ from values]
    rfl
  rw [← get?_stats] at newest
  exact newest

/-- What a round tells of captures made in turn, by its values, its failures, the newest values in
the histories and the log. -/
structure RoundEnd.Tells (ended : RoundEnd W) (round : Round) (all : List (Taken W)) : Prop where
  values : List.Forall₂
    (fun taken entry => taken.metric.kind = entry.1 ∧ taken.Gives entry.2) all round.values
  newest : ∀ kind value, (kind, value) ∈ round.values → ∀ workerId time,
    (ended.collector.snapshot workerId time).latestValue kind.shortName = some value
  marked : round.failures = round.values.countP fun entry => entry.2 == -1
  warned : round.failures = (all.filterMap Taken.warning?).length
  clean : round.isClean = true ↔ ∀ entry ∈ round.values, (entry.2 == -1) = false
  logged : ended.events = all.flatMap Taken.logged
  warnings : (∀ taken ∈ all, ∀ event ∈ taken.capture.events, event.isFailure = false) →
    ended.events.filter Event.isFailure = all.filterMap Taken.warning?

/-- A round that completes captures every registered metric once, in order, each in the world that
the one before it left, and all that it leaves tells the same of these captures. -/
theorem captureAll_tells (completed : (collector.captureAll world).round = some round) :
    (takenFrom collector.registry.metrics world).map Taken.metric = collector.registry.metrics ∧
      (collector.captureAll world).world = worldAfter collector.registry.metrics world ∧
      (round.values.map Prod.fst).Nodup ∧
      (∀ kind, kind ∈ round.values.map Prod.fst ↔
        ∃ metric, collector.registry.get? kind = some metric) ∧
      (collector.captureAll world).Tells round (takenFrom collector.registry.metrics world) := by
  have newest := fun kind value (listed : (kind, value) ∈ round.values) =>
    latestValue_captureAll completed listed
  obtain ⟨kinds, rfl⟩ := @Session.round_captureAll W { collector, world } round completed
  obtain ⟨-, -, whole⟩ := Progress.captureEach_obtained collector.limit
    { world, history := collector.history } collector.registry.metrics
  obtain ⟨left, logged, came⟩ := Progress.captureEach_completed (whole.mpr kinds)
  rw [List.nil_append] at logged
  let log := obtainedFrom collector.registry.metrics world
  have values := Round.values_ofObtained log
  have keys : (Round.ofObtained log).values.map Prod.fst =
      collector.registry.metrics.map Metric.kind := by
    rw [values, List.map_map]
    exact kinds
  refine ⟨map_metric_takenFrom .., left, ?_, ?_, ?_⟩
  · exact keys ▸ collector.registry.nodup_kinds_metrics
  · intro kind
    have registered := collector.registry.mem_kinds_metrics_iff kind
    rwa [← keys] at registered
  · constructor
    case values =>
      refine values ▸ List.forall₂_map_right_iff.mpr (came.imp ?_)
      exact fun _ _ here => ⟨here.1, here.gives⟩
    case newest => exact newest
    case marked => exact Round.failures_eq_countP_values log
    case warned =>
      exact (Round.failures_ofObtained log).trans (Taken.length_filterMap_warning? came).symm
    case clean => exact Round.isClean_ofObtained_iff log
    case logged => exact logged
    case warnings =>
      intro silent
      exact (congrArg _ logged).trans (Taken.filter_flatMap_logged silent)

/-- A metric with one outcome, which notes in the world that it was captured. -/
def noting (kind : Kind) (ceiling : Ceiling) (outcome : Except Fault Sample) :
    Metric (List Kind) where
  kind
  ceiling
  capture world := ({ outcome := some outcome }, world ++ [kind])

/-- A capture that fails leaves the next one to come, and its mark takes the place of what was
sampled before it. -/
theorem captureAll_tells_halfFailing :
    let ceiling : Ceiling := ⟨80, by decide, by decide⟩
    let collector : Collector (List Kind) :=
      { registry := (Registry.registerAll
          [noting .memory ceiling (.ok ⟨12.5, by decide, by decide⟩),
            noting .cpu ceiling (.error (.tableMissing "/proc/stat"))]).1
        limit := 1
        limit_pos := by decide
        history := fun _ => some [50] }
    let round : Round := { values := [(.cpu, -1), (.memory, 12.5)], failures := 1 }
    (collector.captureAll []).round = some round ∧
      (collector.captureAll []).Tells round (takenFrom collector.registry.metrics []) ∧
      (collector.captureAll []).world = [.cpu, .memory] ∧
      (collector.captureAll []).events = [.captureFailed .cpu (.tableMissing "/proc/stat")] ∧
      (collector.captureAll []).collector.history .cpu = some [-1] := by
  intro ceiling collector round
  have completed : (collector.captureAll []).round = some round := by decide
  obtain ⟨-, left, -, -, tells⟩ := captureAll_tells completed
  exact ⟨completed, tells, left, tells.logged, by decide⟩

end Collector

end WorkerVitals
