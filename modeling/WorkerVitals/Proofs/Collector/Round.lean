import Mathlib.Data.List.DropRight
import WorkerVitals.Collector

namespace WorkerVitals

/-- The outcome of one capture within a round, with the kind of its metric. -/
abbrev Obtained := Kind × Except Fault Sample

/-- The number a history keeps of an outcome: the value of a sample, and -1 for a failure. -/
def Obtained.value (obtained : Obtained) : Float :=
  match obtained.2 with
  | .ok sample => sample.value
  | .error _ => -1

/-- The numbers of one kind among outcomes, in order. -/
def valuesOf (kind : Kind) (log : List Obtained) : List Float :=
  (log.filter fun obtained => obtained.1 = kind).map Obtained.value

/-- The outcomes of captures in turn, up to the first under which the clock fails. -/
def obtainedFrom {W : Type} : List (Metric W) → W → List Obtained
  | [], _ => []
  | metric :: rest, world =>
    match (metric.capture world).1.outcome with
    | none => []
    | some outcome => (metric.kind, outcome) :: obtainedFrom rest (metric.capture world).2

/-- The round that outcomes make up. -/
def Round.ofObtained (log : List Obtained) : Round :=
  log.foldl (fun round obtained => round.add obtained.1 obtained.2) {}

theorem recorded_eq_value (kind : Kind) (outcome : Except Fault Sample) :
    recorded outcome = Obtained.value (kind, outcome) := by
  cases outcome <;> rfl

/-- Pushing onto the newest values of a list leaves the newest values of the longer list. -/
theorem pushBounded_rtake {limit : Nat} (limit_pos : 0 < limit) (values : List Float)
    (value : Float) :
    pushBounded limit (values.rtake limit) value = (values ++ [value]).rtake limit := by
  obtain ⟨room, rfl⟩ : ∃ room, limit = room + 1 := ⟨limit - 1, by omega⟩
  rw [List.rtake_concat_succ]
  unfold pushBounded List.rtake
  by_cases full : room + 1 ≤ values.length
  · have length : (values.drop (values.length - (room + 1))).length = room + 1 := by
      rw [List.length_drop]
      omega
    have place : values.length - (room + 1) + 1 = values.length - room := by omega
    rw [if_pos length, List.drop_drop, place]
  · have length : (values.drop (values.length - (room + 1))).length ≠ room + 1 := by
      rw [List.length_drop]
      omega
    have start : values.length - (room + 1) = values.length - room := by omega
    rw [if_neg length, start]

/-- What a history keeps of all the values of a kind: the newest ones, once there is any. -/
def newest? (limit : Nat) (values : List Float) : Option (List Float) :=
  if values = [] then none else some (values.rtake limit)

@[simp] theorem newest?_eq_none_iff (limit : Nat) (values : List Float) :
    newest? limit values = none ↔ values = [] := by
  simp [newest?]

theorem getD_newest? (limit : Nat) (values : List Float) :
    (newest? limit values).getD [] = values.rtake limit := by
  unfold newest?
  split
  · simp [*]
  · rfl

theorem newest?_concat {limit : Nat} (limit_pos : 0 < limit) (values : List Float) (value : Float) :
    newest? limit (values ++ [value]) =
      some (pushBounded limit ((newest? limit values).getD []) value) := by
  rw [getD_newest?, pushBounded_rtake limit_pos, newest?, if_neg (by simp)]

theorem exists_newest?_iff {shows : List Float → Prop} (nonempty : ¬shows []) (limit : Nat)
    (values : List Float) :
    (∃ samples ∈ newest? limit values, shows samples) ↔ shows (values.rtake limit) := by
  unfold newest?
  split
  · simp [*]
  · simp

theorem record_same {history : History} {limit : Nat} {kind : Kind} {value : Float} :
    history.record limit kind value kind =
      some (pushBounded limit ((history kind).getD []) value) := if_pos rfl

theorem record_other {history : History} {limit : Nat} {kind other : Kind} {value : Float}
    (different : other ≠ kind) : history.record limit kind value other = history other :=
  if_neg different

/-- Recording outcomes in turn pushes those of a kind onto its own history. -/
theorem foldl_record {limit : Nat} (limit_pos : 0 < limit) {kind : Kind} {values : List Float}
    (log : List Obtained) (history : History) (kept : history kind = newest? limit values) :
    log.foldl (fun history obtained => history.record limit obtained.1 obtained.value) history kind =
      newest? limit (values ++ valuesOf kind log) := by
  induction log generalizing history values with
  | nil => simpa [valuesOf] using kept
  | cons obtained rest ih =>
    by_cases same : obtained.1 = kind
    · have pushed : history.record limit obtained.1 obtained.value kind =
          newest? limit (values ++ [obtained.value]) := by
        rw [same, record_same, kept, newest?_concat limit_pos]
      simpa [valuesOf, same] using ih _ pushed
    · have untouched : history.record limit obtained.1 obtained.value kind =
          newest? limit values := by
        rw [record_other (Ne.symm same), kept]
      simpa [valuesOf, same] using ih _ untouched

theorem getLast?_foldl_record (limit : Nat) (kind : Kind) (log : List Obtained)
    (history : History) :
    (log.foldl (fun history obtained => history.record limit obtained.1 obtained.value) history
      kind).bind List.getLast? =
        (valuesOf kind log).getLast?.or ((history kind).bind List.getLast?) := by
  induction log generalizing history with
  | nil => rfl
  | cons obtained rest ih =>
    rw [List.foldl_cons, ih]
    by_cases same : obtained.1 = kind
    · have pushed : (history.record limit obtained.1 obtained.value kind).bind List.getLast? =
          some obtained.value := by
        rw [same, record_same, Option.bind_some, pushBounded, List.getLast?_concat]
      have values : valuesOf kind (obtained :: rest) = obtained.value :: valuesOf kind rest := by
        simp [valuesOf, same]
      rw [pushed, values, List.getLast?_cons]
      cases (valuesOf kind rest).getLast? <;> rfl
    · have values : valuesOf kind (obtained :: rest) = valuesOf kind rest := by
        simp [valuesOf, same]
      rw [record_other (Ne.symm same), values]

namespace Round

theorem values_foldl (log : List Obtained) (round : Round) :
    (log.foldl (fun round obtained => round.add obtained.1 obtained.2) round).values =
      round.values ++ log.map fun obtained => (obtained.1, obtained.value) := by
  induction log generalizing round with
  | nil => simp
  | cons obtained rest ih =>
    have added : (round.add obtained.1 obtained.2).values =
        round.values ++ [(obtained.1, obtained.value)] :=
      congrArg (fun value => round.values ++ [(obtained.1, value)]) (recorded_eq_value ..)
    rw [List.foldl_cons, ih, added, List.append_assoc, List.map_cons, List.singleton_append]

theorem values_ofObtained (log : List Obtained) :
    (ofObtained log).values = log.map fun obtained => (obtained.1, obtained.value) := by
  rw [ofObtained, values_foldl]
  rfl

end Round

namespace Progress

variable {W : Type} {limit : Nat} {progress : Progress W} {metric : Metric W}

theorem capture_failed (failed : (metric.capture progress.world).1.outcome = none) :
    progress.capture limit metric =
      ({ progress with
          world := (metric.capture progress.world).2
          events := progress.events ++ (metric.capture progress.world).1.events }, false) := by
  simp only [capture, failed]

theorem capture_obtained {outcome : Except Fault Sample}
    (obtained : (metric.capture progress.world).1.outcome = some outcome) :
    progress.capture limit metric =
      ({ world := (metric.capture progress.world).2
         history := progress.history.record limit metric.kind (recorded outcome)
         round := progress.round.add metric.kind outcome
         events := progress.events ++ (metric.capture progress.world).1.events ++
          failureEvents metric.kind outcome }, true) := by
  simp only [capture, obtained]

/-- A round records every outcome it obtains, and completes when it obtains one of each metric. -/
theorem captureEach_obtained (limit : Nat) (progress : Progress W) (metrics : List (Metric W)) :
    let ended := progress.captureEach limit metrics
    let log := obtainedFrom metrics progress.world
    ended.1.history =
        log.foldl (fun history obtained => history.record limit obtained.1 obtained.value)
          progress.history ∧
      ended.1.round = log.foldl (fun round obtained => round.add obtained.1 obtained.2)
        progress.round ∧
      (ended.2 = true ↔ log.map Prod.fst = metrics.map Metric.kind) := by
  induction metrics generalizing progress with
  | nil => simp [captureEach, obtainedFrom]
  | cons metric rest ih =>
    cases result : (metric.capture progress.world).1.outcome with
    | none => simp [captureEach, obtainedFrom, result, capture_failed result]
    | some outcome =>
      have later := ih (progress.capture limit metric).1
      simp only [capture_obtained result] at later
      simp only [captureEach, obtainedFrom, result, capture_obtained result, List.foldl_cons,
        List.map_cons, List.cons.injEq, true_and, ← recorded_eq_value]
      exact later

end Progress

end WorkerVitals
