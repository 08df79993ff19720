import WorkerVitals.Proofs.Binary64.Sign
import WorkerVitals.Proofs.Collector.History
import WorkerVitals.Proofs.Registry

/-! When a snapshot shows a failure. Completed rounds push one value onto every history they fill, so
the histories evict in step, and a window of values is a window of rounds. -/
namespace WorkerVitals

theorem Sample.value_ne_failureMark (sample : Sample) : (sample.value == failureMark) = false :=
  Binary64.beq_neg_one_of_nonneg sample.nonneg

theorem mark_is_mark : (failureMark == failureMark) = true := by decide

namespace Round

private theorem failures_foldl (log : List Obtained) (round : Round) :
    (log.foldl (fun round obtained => round.add obtained.1 obtained.2) round).failures =
      round.failures + log.countP fun obtained => obtained.value == failureMark := by
  induction log generalizing round with
  | nil => rfl
  | cons obtained rest ih =>
    rw [List.foldl_cons, ih, List.countP_cons]
    obtain ⟨kind, outcome⟩ := obtained
    cases outcome with
    | ok sample =>
      have taken : (Obtained.value (kind, .ok sample) == failureMark) = false :=
        sample.value_ne_failureMark
      simp [add, taken]
    | error fault =>
      have marked : (Obtained.value (kind, .error fault) == failureMark) = true := mark_is_mark
      simp only [add, marked, if_true]
      omega

theorem failures_ofObtained (log : List Obtained) :
    (ofObtained log).failures = log.countP fun obtained => obtained.value == failureMark := by
  rw [ofObtained, failures_foldl]
  exact Nat.zero_add _

theorem isClean_ofObtained_eq_false {log : List Obtained} :
    (ofObtained log).isClean = false ↔
      ∃ obtained ∈ log, (obtained.value == failureMark) = true := by
  unfold isClean
  rw [failures_ofObtained, decide_eq_false_iff_not, ← List.countP_pos_iff]
  omega

end Round

/-- Within one round a registered kind gives one value, and any other kind none. -/
theorem length_valuesOf {log : List Obtained} (distinct : (log.map Prod.fst).Nodup) (kind : Kind) :
    (valuesOf kind log).length = if kind ∈ log.map Prod.fst then 1 else 0 := by
  have counted : (valuesOf kind log).length = (log.map Prod.fst).count kind := by
    rw [valuesOf, List.length_map, ← List.countP_eq_length_filter, List.count, List.countP_map]
    congr 1
  rw [counted, distinct.count]

theorem mem_valuesOf {log : List Obtained} {kind : Kind} {value : Float} :
    value ∈ valuesOf kind log ↔ ∃ obtained ∈ log, obtained.1 = kind ∧ obtained.value = value := by
  simp only [valuesOf, List.mem_map, List.mem_filter, decide_eq_true_eq]
  constructor
  · rintro ⟨obtained, ⟨member, same⟩, rfl⟩
    exact ⟨obtained, member, same, rfl⟩
  · rintro ⟨obtained, member, same, rfl⟩
    exact ⟨obtained, ⟨member, same⟩, rfl⟩

/-- When each block has one item, the newest items are those of the newest blocks. -/
theorem rtake_flatMap {α β : Type} {blocks : List α} {items : α → List β}
    (single : ∀ block ∈ blocks, (items block).length = 1) (window : Nat) :
    (blocks.flatMap items).rtake window = (blocks.rtake window).flatMap items := by
  induction blocks using List.reverseRecOn generalizing window with
  | nil => simp
  | append_singleton earlier block ih =>
    have before := ih fun block member => single block (List.mem_append_left _ member)
    obtain ⟨item, only⟩ := List.length_eq_one_iff.mp (single block (by simp))
    cases window with
    | zero => simp
    | succ window => simp [only, List.rtake_concat_succ, before]

namespace Session

variable {W : Type}

/-- A round that returns something obtained an outcome of each registered kind. -/
theorem round_captureAll {session : Session W} {round : Round}
    (returned : (session.collector.captureAll session.world).round = some round) :
    session.obtained.map Prod.fst = session.collector.registry.metrics.map Metric.kind ∧
      round = .ofObtained session.obtained := by
  obtain ⟨_, made, completed⟩ := Progress.captureEach_obtained session.collector.limit
    { world := session.world, history := session.collector.history }
    session.collector.registry.metrics
  unfold Collector.captureAll at returned
  simp only at returned
  split at returned
  · rename_i complete
    exact ⟨completed.mp complete, (Option.some.inj returned).symm.trans made⟩
  · cases returned

theorem registry_roundStarts {session start : Session W} {moves : List (Move W)}
    (member : start ∈ session.roundStarts moves) :
    start.collector.registry = session.collector.registry := by
  induction moves generalizing session with
  | nil => cases member
  | cons move rest ih =>
    by_cases within : move = .round
    · subst within
      rcases List.mem_cons.mp member with here | later
      · rw [here]
      · exact (ih later).trans (frame_step session .round).1
    · rw [roundStarts_outside session within] at member
      exact (ih member).trans (frame_step session move).1

/-- In completed rounds the newest values of a registered kind are those of the newest rounds. -/
theorem rtake_valuesOf_outcomes {session : Session W} {moves : List (Move W)} {kind : Kind}
    (complete : ∀ start ∈ session.roundStarts moves,
      start.obtained.map Prod.fst = session.collector.registry.metrics.map Metric.kind)
    (registered : kind ∈ session.collector.registry.metrics.map Metric.kind) (window : Nat) :
    (valuesOf kind (session.outcomes moves)).rtake window =
      ((session.roundStarts moves).rtake window).flatMap fun start =>
        valuesOf kind start.obtained := by
  have single : ∀ start ∈ session.roundStarts moves,
      (valuesOf kind start.obtained).length = 1 := by
    intro start member
    have kinds := complete start member
    rw [length_valuesOf (kinds ▸ session.collector.registry.nodup_kinds_metrics), kinds,
      if_pos registered]
  have blocks : valuesOf kind (session.outcomes moves) =
      (session.roundStarts moves).flatMap fun start => valuesOf kind start.obtained := by
    simp only [outcomes, valuesOf, List.filter_flatMap, List.map_flatMap]
  rw [blocks, rtake_flatMap single]

theorem rounds_completed {session : Session W} {moves : List (Move W)} {rounds : List Round}
    (completed : session.rounds moves = rounds.map some) :
    rounds = (session.roundStarts moves).map (fun start => Round.ofObtained start.obtained) ∧
      ∀ start ∈ session.roundStarts moves,
        start.obtained.map Prod.fst = session.collector.registry.metrics.map Metric.kind := by
  have returned : ∀ start ∈ session.roundStarts moves,
      ∃ round, (start.collector.captureAll start.world).round = some round := by
    intro start member
    have listed := List.mem_map_of_mem
      (f := fun start : Session W => (start.collector.captureAll start.world).round) member
    rw [← Session.rounds, completed] at listed
    obtain ⟨round, _, same⟩ := List.mem_map.mp listed
    exact ⟨round, same.symm⟩
  constructor
  · apply List.map_injective_iff.mpr fun _ _ => Option.some.inj
    rw [← completed, Session.rounds, List.map_map]
    apply List.map_congr_left
    intro start member
    obtain ⟨round, same⟩ := returned start member
    obtain ⟨_, rfl⟩ := round_captureAll same
    exact same
  · intro start member
    obtain ⟨round, same⟩ := returned start member
    obtain ⟨kinds, _⟩ := round_captureAll same
    rw [kinds, registry_roundStarts member]

/-- Among the newest values of all kinds there is a mark exactly when a round among as many newest
ones was not clean. -/
theorem marked_window_iff {session : Session W} {moves : List (Move W)} {rounds : List Round}
    (completed : session.rounds moves = rounds.map some) (window : Nat) :
    (∃ kind, ∃ value ∈ (valuesOf kind (session.outcomes moves)).rtake window,
        (value == failureMark) = true) ↔
      ∃ round ∈ rounds.rtake window, round.isClean = false := by
  obtain ⟨made, complete⟩ := rounds_completed completed
  have newest : rounds.rtake window = ((session.roundStarts moves).rtake window).map
      fun start => Round.ofObtained start.obtained := by
    rw [made, List.rtake, List.rtake, List.map_drop, List.length_map]
  have registered {start : Session W} (member : start ∈ session.roundStarts moves)
      {obtained : Obtained} (within : obtained ∈ start.obtained) :
      obtained.1 ∈ session.collector.registry.metrics.map Metric.kind := by
    rw [← complete start member]
    exact List.mem_map_of_mem within
  rw [newest]
  constructor
  · rintro ⟨kind, value, recent, marked⟩
    obtain ⟨obtained, member, rfl, _⟩ := mem_valuesOf.mp (List.mem_of_mem_drop recent)
    obtain ⟨start, started, within⟩ := List.mem_flatMap.mp member
    rw [rtake_valuesOf_outcomes complete (registered started within)] at recent
    obtain ⟨start, late, shown⟩ := List.mem_flatMap.mp recent
    obtain ⟨failed, within, _, rfl⟩ := mem_valuesOf.mp shown
    exact ⟨_, List.mem_map_of_mem late, Round.isClean_ofObtained_eq_false.mpr ⟨failed, within, marked⟩⟩
  · rintro ⟨round, member, unclean⟩
    obtain ⟨start, late, rfl⟩ := List.mem_map.mp member
    obtain ⟨failed, within, marked⟩ := Round.isClean_ofObtained_eq_false.mp unclean
    refine ⟨failed.1, failed.value, ?_, marked⟩
    rw [rtake_valuesOf_outcomes complete (registered (List.mem_of_mem_drop late) within)]
    exact List.mem_flatMap.mpr ⟨start, late, mem_valuesOf.mpr ⟨failed, within, rfl, rfl⟩⟩

end Session

namespace Collector

variable {W : Type}

theorem exists_samples_iff (collector : Collector W) (shows : List Float → Prop) :
    (∃ samples ∈ collector.stats.values, shows samples) ↔
      ∃ kind, ∃ samples ∈ collector.history kind, shows samples := by
  simp only [NameMap.mem_values_iff]
  constructor
  · rintro ⟨samples, ⟨name, found⟩, shown⟩
    obtain ⟨kind, -, kept⟩ := (get?_stats_eq_some_iff collector).mp found
    exact ⟨kind, samples, kept, shown⟩
  · rintro ⟨kind, samples, kept, shown⟩
    exact ⟨samples, ⟨kind.shortName, (get?_stats collector kind).trans kept⟩, shown⟩

theorem anyFailing_snapshot (collector : Collector W) (workerId : String) (time : Int64) :
    (collector.snapshot workerId time).anyFailing = true ↔
      ∃ kind, ∃ samples ∈ collector.history kind, ∃ value ∈ samples,
        (value == failureMark) = true := by
  rw [← collector.exists_samples_iff]
  simp only [Snapshot.anyFailing, snapshot, Option.any_some, List.any_eq_true]

private theorem any_getLast?_iff (values : List Float) :
    values.getLast?.any (· == failureMark) = true ↔
      ∃ value ∈ values.rtake 1, (value == failureMark) = true := by
  rcases List.eq_nil_or_concat values with rfl | ⟨earlier, value, rfl⟩
  · simp
  · simp [List.rtake_concat_succ]

theorem latestFailing_snapshot (collector : Collector W) (workerId : String) (time : Int64) :
    (collector.snapshot workerId time).latestFailing = true ↔
      ∃ kind, ∃ samples ∈ collector.history kind, ∃ value ∈ samples.rtake 1,
        (value == failureMark) = true := by
  rw [← collector.exists_samples_iff]
  simp only [Snapshot.latestFailing, snapshot, Option.any_some, List.any_eq_true, any_getLast?_iff]

end Collector

/-- An unclean round stands in a window exactly while fewer rounds than the window follow it. -/
theorem unclean_window_iff {earlier later : List Round} {failed : Round}
    (unclean : failed.isClean = false) (clean : ∀ round ∈ later, round.isClean = true)
    (window : Nat) :
    (∃ round ∈ (earlier ++ failed :: later).rtake window, round.isClean = false) ↔
      later.length < window := by
  unfold List.rtake
  rw [List.length_append, List.length_cons]
  constructor
  · rintro ⟨round, recent, bad⟩
    by_contra gone
    obtain ⟨skipped, place⟩ : ∃ skipped, earlier.length + (later.length + 1) - window =
        (earlier ++ [failed]).length + skipped :=
      ⟨later.length - window, by rw [List.length_append, List.length_singleton]; omega⟩
    rw [List.append_cons, place, List.drop_length_add_append] at recent
    have good := clean round (List.mem_of_mem_drop recent)
    rw [bad] at good
    cases good
  · intro near
    have place : earlier.length + (later.length + 1) - window ≤ earlier.length := by omega
    rw [List.drop_append_of_le_length place]
    exact ⟨failed, by simp, unclean⟩

namespace Session

variable {W : Type}

/-- After completed rounds a snapshot reports a latest failure when the last round was not clean, and
any failure when a round still in the histories was not: a failure is seen for as many rounds as a
history is long, and no sample passes for one. -/
theorem failing_iff_unclean_rounds {registry : Registry W} {limit : Nat} {start : Session W}
    (fresh : Collector.of registry limit = .ok start.collector) {moves : List (Move W)}
    {results : List Round} (completed : start.rounds moves = results.map some)
    (workerId : String) (time : Int64) :
    (((start.run moves).collector.snapshot workerId time).latestFailing = true ↔
        ∃ last, results.getLast? = some last ∧ last.isClean = false) ∧
      (((start.run moves).collector.snapshot workerId time).anyFailing = true ↔
        ∃ round ∈ results.rtake limit, round.isClean = false) ∧
      (∀ earlier failed later, results = earlier ++ failed :: later → failed.isClean = false →
        (∀ round ∈ later, round.isClean = true) →
        (((start.run moves).collector.snapshot workerId time).anyFailing = true ↔
          later.length < limit)) ∧
      ∀ sample : Sample, (sample.value == failureMark) = false := by
  obtain ⟨_, bound, empty⟩ := Collector.of_eq_ok fresh
  have kept := history_fresh fresh moves
  have any : ((start.run moves).collector.snapshot workerId time).anyFailing = true ↔
      ∃ round ∈ results.rtake limit, round.isClean = false := by
    rw [Collector.anyFailing_snapshot, ← marked_window_iff completed]
    simp only [kept]
    exact exists_congr fun kind => exists_newest?_iff (by simp) ..
  refine ⟨?_, any, ?_, Sample.value_ne_failureMark⟩
  · have last : (∃ last, results.getLast? = some last ∧ last.isClean = false) ↔
        ∃ round ∈ results.rtake 1, round.isClean = false := by
      rcases List.eq_nil_or_concat results with rfl | ⟨earlier, round, rfl⟩
      · simp
      · simp [List.rtake_concat_succ]
    have positive : 1 ≤ limit := bound ▸ start.collector.limit_pos
    rw [Collector.latestFailing_snapshot, last, ← marked_window_iff completed]
    simp only [kept]
    refine exists_congr fun kind => (exists_newest?_iff (by simp) ..).trans ?_
    rw [rtake_rtake, Nat.min_eq_left positive]
  · rintro earlier failed later rfl unclean clean
    rw [any, unclean_window_iff unclean clean]

theorem failing_iff_unclean_rounds_replayed :
    let start := replayed [some 10, none, some 30]
    let moves : List (Move Replay) := [.round, .round, .round]
    let results : List Round :=
      [{ values := [(.networkIn, 10)] }, { values := [(.networkIn, -1)], failures := 1 },
        { values := [(.networkIn, 30)] }]
    Collector.of start.collector.registry 2 = .ok start.collector ∧
      start.rounds moves = results.map some ∧
      ((start.run moves).collector.snapshot "w" 0).latestFailing = false ∧
      ((start.run moves).collector.snapshot "w" 0).anyFailing = true := by
  intro start moves results
  have fresh : Collector.of start.collector.registry 2 = .ok start.collector := rfl
  have completed : start.rounds moves = results.map some := by decide
  obtain ⟨latest, any, _⟩ := failing_iff_unclean_rounds fresh completed "w" 0
  refine ⟨fresh, completed, ?_, any.mpr ⟨{ values := [(.networkIn, -1)], failures := 1 }, by decide, rfl⟩⟩
  rw [← Bool.not_eq_true, latest]
  rintro ⟨last, newest, unclean⟩
  obtain rfl := Option.some.inj newest
  cases unclean

end Session

end WorkerVitals
