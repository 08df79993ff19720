import WorkerVitals.Proofs.Collector.Round
import WorkerVitals.Proofs.Collector.Session

/-! Two sessions side by side. The second one does without some of the metrics of the first, and does
not notice what these do to the world of the first. -/
namespace WorkerVitals

variable {W V : Type} (R : W → V → Prop)

/-- Where worlds correspond, captures of two metrics come to the same, and the worlds correspond
again. -/
structure Metric.Follows (metric : Metric W) (other : Metric V) : Prop where
  kind : other.kind = metric.kind
  capture : ∀ w v, R w v → (other.capture v).1 = (metric.capture w).1
  worlds : ∀ w v, R w v → R (metric.capture w).2 (other.capture v).2

/-- A capture changes nothing for the other world, and the clock does not fail under it. -/
structure Metric.Unnoticed (metric : Metric W) : Prop where
  outcome : ∀ w v, R w v → (metric.capture w).1.outcome ≠ none
  worlds : ∀ w v, R w v → R (metric.capture w).2 v

/-- A registry has some of the metrics of another one, and goes without the rest unnoticed. -/
structure Registry.Beside (full : Registry W) (part : Registry V) : Prop where
  follows : ∀ kind other, part.get? kind = some other →
    ∃ metric, full.get? kind = some metric ∧ metric.Follows R other
  unnoticed : ∀ kind metric, full.get? kind = some metric → part.get? kind = none →
    metric.Unnoticed R

/-- Histories are the same for the metrics that are in both registries. -/
def Registry.Shares (part : Registry V) (history other : History) : Prop :=
  ∀ kind metric, part.get? kind = some metric → other kind = history kind

theorem Registry.Shares.record {part : Registry V} {history other : History}
    (shares : part.Shares history other) (limit : Nat) (kind : Kind) (value : Float) :
    part.Shares (history.record limit kind value) (other.record limit kind value) := by
  intro found metric present
  by_cases same : found = kind
  · subst same
    rw [record_same, record_same, shares found metric present]
  · rw [record_other same, record_other same, shares found metric present]

theorem Registry.Shares.record_absent {part : Registry V} {history other : History}
    (shares : part.Shares history other) (limit : Nat) {kind : Kind} (absent : part.get? kind = none)
    (value : Float) : part.Shares (history.record limit kind value) other := by
  intro found metric present
  have different : found ≠ kind := by
    rintro rfl
    rw [absent] at present
    cases present
  rw [record_other different, shares found metric present]

/-- Two rounds under way side by side. -/
structure Progress.Beside (part : Registry V) (progress : Progress W) (other : Progress V) :
    Prop where
  world : R progress.world other.world
  history : part.Shares progress.history other.history

namespace Progress

variable {R} {full : Registry W} {part : Registry V} {progress : Progress W} {other : Progress V}

theorem Beside.follow (beside : progress.Beside R part other) (limit : Nat) {metric : Metric W}
    {follower : Metric V} (follows : metric.Follows R follower) :
    (progress.capture limit metric).1.Beside R part (other.capture limit follower).1 ∧
      (other.capture limit follower).2 = (progress.capture limit metric).2 := by
  have same := follows.capture _ _ beside.world
  have world := follows.worlds _ _ beside.world
  cases result : (metric.capture progress.world).1.outcome with
  | none =>
    have failed : (follower.capture other.world).1.outcome = none := same ▸ result
    rw [capture_failed result, capture_failed failed]
    exact ⟨⟨world, beside.history⟩, rfl⟩
  | some outcome =>
    have obtained : (follower.capture other.world).1.outcome = some outcome := same ▸ result
    rw [capture_obtained result, capture_obtained obtained, follows.kind]
    exact ⟨⟨world, beside.history.record limit _ _⟩, rfl⟩

/-- A metric that is not in the other registry is captured unnoticed. -/
theorem Beside.skip (beside : progress.Beside R part other) (limit : Nat) {metric : Metric W}
    (absent : part.get? metric.kind = none) (unnoticed : metric.Unnoticed R) :
    (progress.capture limit metric).1.Beside R part other ∧
      (progress.capture limit metric).2 = true := by
  obtain ⟨outcome, result⟩ :=
    Option.ne_none_iff_exists'.mp (unnoticed.outcome _ _ beside.world)
  rw [capture_obtained result]
  exact ⟨⟨unnoticed.worlds _ _ beside.world, beside.history.record_absent limit absent _⟩, rfl⟩

theorem captureEach_cons (limit : Nat) (progress : Progress W) (metric : Metric W)
    (rest : List (Metric W)) :
    progress.captureEach limit (metric :: rest) =
      if (progress.capture limit metric).2 then
        (progress.capture limit metric).1.captureEach limit rest
      else ((progress.capture limit metric).1, false) := by
  rw [captureEach]
  cases progress.capture limit metric with
  | mk next completed => cases completed <;> rfl

/-- The induction goes over kinds, where each step captures the metrics that the two registries have
of one kind. -/
theorem Beside.captureEach (registries : full.Beside R part) (limit : Nat)
    (beside : progress.Beside R part other) (kinds : List Kind) :
    (progress.captureEach limit (kinds.filterMap full.get?)).1.Beside R part
        (other.captureEach limit (kinds.filterMap part.get?)).1 ∧
      (other.captureEach limit (kinds.filterMap part.get?)).2 =
        (progress.captureEach limit (kinds.filterMap full.get?)).2 := by
  induction kinds generalizing progress other with
  | nil => exact ⟨beside, rfl⟩
  | cons kind rest ih =>
    cases present : part.get? kind with
    | some follower =>
      obtain ⟨metric, found, follows⟩ := registries.follows kind follower present
      obtain ⟨next, same⟩ := beside.follow limit follows
      rw [List.filterMap_cons_some found, List.filterMap_cons_some present, captureEach_cons,
        captureEach_cons, same]
      split
      · exact ih next
      · exact ⟨next, rfl⟩
    | none =>
      rw [List.filterMap_cons_none present]
      cases found : full.get? kind with
      | none =>
        rw [List.filterMap_cons_none found]
        exact ih beside
      | some metric =>
        have absent : part.get? metric.kind = none := full.placed kind metric found ▸ present
        obtain ⟨next, completed⟩ :=
          beside.skip limit absent (registries.unnoticed kind metric found present)
        rw [List.filterMap_cons_some found, captureEach_cons, if_pos completed]
        exact ih next

end Progress

/-- Sessions side by side: their worlds correspond, and they agree on what both keep histories of. -/
structure Session.Beside (full : Session W) (part : Session V) : Prop where
  world : R full.world part.world
  registry : full.collector.registry.Beside R part.collector.registry
  limit : part.collector.limit = full.collector.limit
  history : part.collector.registry.Shares full.collector.history part.collector.history

/-- Moves of two sessions side by side; the second one leaves out captures that it would not
notice. -/
inductive Session.Moves : List (Move W) → List (Move V) → Prop where
  | nil : Moves [] []
  | round {moves others} (rest : Moves moves others) : Moves (.round :: moves) (.round :: others)
  | captureNamed (shortName : String) {moves others} (rest : Moves moves others) :
    Moves (.captureNamed shortName :: moves) (.captureNamed shortName :: others)
  | capture {metric : Metric W} {other : Metric V} (follows : metric.Follows R other) {moves others}
    (rest : Moves moves others) : Moves (.capture metric :: moves) (.capture other :: others)
  | skip {metric : Metric W} (unnoticed : metric.Unnoticed R) {moves others}
    (rest : Moves moves others) : Moves (.capture metric :: moves) others
  | elapse {change : W → W} {other : V → V} (kept : ∀ w v, R w v → R (change w) (other v))
    {moves others} (rest : Moves moves others) :
    Moves (.elapse change :: moves) (.elapse other :: others)

namespace Session.Beside

variable {R} {full : Session W} {part : Session V}

theorem round (beside : full.Beside R part) :
    (full.step .round).Beside R (part.step .round) := by
  have started : ({ world := full.world, history := full.collector.history } : Progress W).Beside R
      part.collector.registry { world := part.world, history := part.collector.history } :=
    ⟨beside.world, beside.history⟩
  obtain ⟨ended, -⟩ := started.captureEach beside.registry full.collector.limit Kind.all
  refine ⟨?_, beside.registry, beside.limit, ?_⟩
  · simpa only [step, Collector.captureAll, Registry.metrics, beside.limit] using ended.world
  · simpa only [step, Collector.captureAll, Registry.metrics, beside.limit] using ended.history

theorem capture (beside : full.Beside R part) {metric : Metric W} {other : Metric V}
    (follows : metric.Follows R other) : (full.capture metric).Beside R (part.capture other) :=
  ⟨follows.worlds _ _ beside.world, beside.registry, beside.limit, beside.history⟩

theorem skip (beside : full.Beside R part) {metric : Metric W} (unnoticed : metric.Unnoticed R) :
    (full.capture metric).Beside R part :=
  ⟨unnoticed.worlds _ _ beside.world, beside.registry, beside.limit, beside.history⟩

/-- What a name stands for is followed, captured unnoticed, or in neither registry. -/
theorem captureNamed (beside : full.Beside R part) (shortName : String) :
    (full.step (.captureNamed shortName)).Beside R (part.step (.captureNamed shortName)) := by
  simp only [step, Registry.getByShortName?]
  cases Kind.ofShortName? shortName with
  | none => exact beside
  | some kind =>
    simp only [Option.bind_some]
    cases present : part.collector.registry.get? kind with
    | some other =>
      obtain ⟨metric, found, follows⟩ := beside.registry.follows kind other present
      rw [found]
      exact beside.capture follows
    | none =>
      cases found : full.collector.registry.get? kind with
      | none => exact beside
      | some metric => exact beside.skip (beside.registry.unnoticed kind metric found present)

theorem run {moves : List (Move W)} {others : List (Move V)} (paired : Moves R moves others)
    (beside : full.Beside R part) : (full.run moves).Beside R (part.run others) := by
  induction paired generalizing full part with
  | nil => exact beside
  | round _ ih => exact ih beside.round
  | captureNamed shortName _ ih => exact ih (beside.captureNamed shortName)
  | capture follows _ ih => exact ih (beside.capture follows)
  | skip unnoticed _ ih => exact ih (beside.skip unnoticed)
  | elapse kept _ ih =>
    exact ih ⟨kept _ _ beside.world, beside.registry, beside.limit, beside.history⟩

end Session.Beside

end WorkerVitals
