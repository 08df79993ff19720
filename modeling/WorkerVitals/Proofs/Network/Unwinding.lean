import WorkerVitals.Proofs.Network.Run

/-! Captures under a clock that may fail. A read that fails unwinds a capture after it replaced the
counters and before it restarted the stopwatch, so the two need not stem from the same capture: a
probe remembers the counters of the newest capture that read the table, and the start of the newest
one that was not unwound. -/
namespace WorkerVitals.Network

variable {C : Type} [Time.Ticker C]

/-- What one capture meets: the file as it is then, and a clock of which any read may fail. -/
structure Attempt (C : Type) where
  table : File.Content
  clock : C

/-- A capture that read the table: the counters it stored, and the reading with which it restarted
the stopwatch unless it was unwound before. -/
structure Imprint where
  counters : Counters
  restartedAt : Option Time.Duration

/-- The newest restart of the stopwatch. -/
def newestRestart (imprints : List Imprint) : Option Time.Duration :=
  (imprints.filterMap Imprint.restartedAt).getLast?

namespace Probe

/-- The captures that read the table, in order. Their clocks are read once until one of them has
restarted the stopwatch, and twice from then on. -/
def imprints (probe : Probe) (attempts : List (Attempt C)) : List Imprint :=
  attempts.foldl (fun earlier attempt =>
    match probe.readCounters attempt.table with
    | .error _ => earlier
    | .ok counters =>
      earlier ++ [⟨counters, Time.Stopwatch.restartReading (newestRestart earlier).isSome
        attempt.clock⟩]) []

def keeping (probe : Probe) (imprints : List Imprint) : Probe :=
  { probe with
    lastCounters := imprints.getLast?.map Imprint.counters
    stopwatch := ⟨newestRestart imprints⟩ }

/-- The probe after captures some of which were unwound. -/
def attempting (probe : Probe) (attempts : List (Attempt C)) : Probe :=
  attempts.foldl (fun probe attempt => (probe.capture attempt.table attempt.clock).2.1) probe

/-- What a probe remembers stems from one capture: it remembers nothing, or the counters and the
restart of the newest capture that read the table. -/
inductive Paired (probe : Probe) : List Imprint → Prop where
  | unset (noCounters : probe.lastCounters = none) (idle : probe.stopwatch.startedAt = none) :
      Paired probe []
  | set {earlier : List Imprint} {newest : Imprint} {start : Time.Duration}
      (restarted : newest.restartedAt = some start)
      (stored : probe.lastCounters = some newest.counters)
      (running : probe.stopwatch.startedAt = some start) : Paired probe (earlier ++ [newest])

@[simp] theorem readCounters_keeping (probe : Probe) (imprints : List Imprint)
    (table : File.Content) :
    (probe.keeping imprints).readCounters table = probe.readCounters table := by
  cases table <;> rfl

@[simp] theorem isRunning_keeping (probe : Probe) (imprints : List Imprint) :
    (probe.keeping imprints).stopwatch.isRunning = (newestRestart imprints).isSome := rfl

theorem newestRestart_concat (earlier : List Imprint) (newest : Imprint) :
    newestRestart (earlier ++ [newest]) = newest.restartedAt.or (newestRestart earlier) := by
  cases restarted : newest.restartedAt <;> simp [newestRestart, restarted]

/-- A capture that reads the table leaves an imprint, whether or not its clock fails. -/
theorem keeping_capture {probe : Probe} {table : File.Content} {counters : Counters}
    (read : probe.readCounters table = .ok counters) (imprints : List Imprint) (clock : C) :
    ((probe.keeping imprints).capture table clock).2.1 = probe.keeping (imprints ++
      [⟨counters, Time.Stopwatch.restartReading (newestRestart imprints).isSome clock⟩]) := by
  have table := (readCounters_keeping probe imprints table).trans read
  rw [← isRunning_keeping probe]
  cases reading :
      Time.Stopwatch.restartReading (probe.keeping imprints).stopwatch.isRunning clock with
  | none =>
    rw [(capture_unwound table (Time.Stopwatch.lap_unwound reading)).2]
    simp [keeping, newestRestart_concat]
  | some now =>
    obtain ⟨after, lapped⟩ := Time.Stopwatch.lap_restarted reading
    rw [capture_read table lapped]
    simp [keeping, newestRestart_concat]

/-- After any captures a fresh probe remembers the newest counters and the newest restart. -/
theorem attempting_eq_keeping {direction : Direction} {ceiling : Ceiling} {config : Config}
    {probe : Probe} (made : Probe.of direction ceiling config = .ok probe)
    (attempts : List (Attempt C)) :
    probe.attempting attempts = probe.keeping (probe.imprints attempts) := by
  -- From the back: the newest capture meets what the earlier ones left.
  induction attempts using List.reverseRecOn with
  | nil =>
    obtain ⟨positive, rfl⟩ := of_eq_ok made
    rfl
  | append_singleton earlier attempt ih =>
    have last : probe.attempting (earlier ++ [attempt]) =
        ((probe.keeping (probe.imprints earlier)).capture attempt.table attempt.clock).2.1 := by
      rw [← ih]
      simp [attempting]
    rw [last]
    cases read : probe.readCounters attempt.table with
    | error fault =>
      rw [capture_unread (by simpa using read)]
      simp [imprints, read]
    | ok counters =>
      rw [keeping_capture read]
      simp [imprints, read]

/-- Bytes are counted from the newest imprint, time from the newest restart. One second stands for
the time as long as there was no restart. -/
theorem utilization_keeping {probe : Probe} {imprints : List Imprint} {attempt : Attempt C}
    {measured : Utilization} (logged : .utilization measured ∈
      ((probe.keeping imprints).capture attempt.table attempt.clock).1.events) :
    ∃ counters, probe.readCounters attempt.table = .ok counters ∧
      measured.deltaBytes = (imprints.getLast?.elim 0 fun newest =>
        Counters.distance (counters.get probe.direction) (newest.counters.get probe.direction)) ∧
      (newestRestart imprints = none → measured.elapsedSecs = 1) ∧
      ∀ start, newestRestart imprints = some start →
        ∃ first, (Time.Ticker.read attempt.clock).1 = some first ∧
          measured.elapsedSecs = (first.since start).toFloat := by
  cases read : probe.readCounters attempt.table with
  | error fault =>
    rw [capture_unread (by simpa using read)] at logged
    cases logged
  | ok counters =>
    have table := (readCounters_keeping probe imprints attempt.table).trans read
    cases reading : Time.Stopwatch.restartReading (probe.keeping imprints).stopwatch.isRunning
        attempt.clock with
    | none =>
      rw [(capture_unwound table (Time.Stopwatch.lap_unwound reading)).1] at logged
      cases logged
    | some now =>
      obtain ⟨after, lapped⟩ := Time.Stopwatch.lap_restarted reading
      rw [capture_read table lapped] at logged
      obtain ⟨seconds, passed, rfl⟩ := utilization_conclude logged
      refine ⟨counters, rfl, ?_, ?_, ?_⟩
      · cases newest : imprints.getLast? with
        | none =>
          simp only [measure, replaceCounters, keeping, newest, Option.map_none, Option.elim_none,
            Counters.get_zero]
        | some newest => simp [measure, replaceCounters, keeping, newest, Counters.get_between]
      · intro idle
        simp only [keeping, idle, Option.bind_none, Probe.seconds, Except.ok.injEq] at passed
        exact passed.symm
      · intro start running
        rw [isRunning_keeping, running, Option.isSome_some, Time.Stopwatch.restartReading,
          if_pos rfl] at reading
        obtain ⟨first, found, _⟩ := Option.bind_eq_some_iff.mp reading
        refine ⟨first, found, ?_⟩
        simp only [keeping, running, found, Option.bind_some, Option.map_some, Probe.seconds]
          at passed
        split at passed
        · cases passed
        · exact (Except.ok.inj passed).symm

theorem paired_keeping_iff {probe : Probe} {imprints : List Imprint} :
    (probe.keeping imprints).Paired imprints ↔
      ∀ newest ∈ imprints.getLast?, newest.restartedAt ≠ none := by
  constructor
  · intro paired newest last
    cases paired with
    | unset => cases last
    | set restarted =>
      rw [List.getLast?_concat] at last
      cases last
      simp [restarted]
  · intro restarted
    rcases imprints.eq_nil_or_concat' with rfl | ⟨earlier, newest, rfl⟩
    · exact .unset rfl rfl
    · have complete := restarted newest (by simp)
      obtain ⟨start, found⟩ := Option.ne_none_iff_exists'.mp complete
      exact .set found (by simp [keeping]) (by simp [keeping, newestRestart_concat, found])

/-- After any captures, clocks failing or not, the counters and the start that a probe remembers
stem from one capture exactly when the newest capture that read the table was not unwound. From then
on a reported rate is over one interval, and one second stands for the time only of no bytes. -/
theorem paired_iff_newest_restarted {direction : Direction} {ceiling : Ceiling} {config : Config}
    {probe : Probe} (made : Probe.of direction ceiling config = .ok probe)
    (attempts : List (Attempt C)) :
    probe.attempting attempts = probe.keeping (probe.imprints attempts) ∧
      ((probe.attempting attempts).Paired (probe.imprints attempts) ↔
        ∀ newest ∈ (probe.imprints attempts).getLast?, newest.restartedAt ≠ none) ∧
      ∀ (attempt : Attempt C) (measured : Utilization),
        .utilization measured ∈
          ((probe.attempting attempts).capture attempt.table attempt.clock).1.events →
        (probe.attempting attempts).Paired (probe.imprints attempts) →
        (probe.imprints attempts = [] ∧ measured.deltaBytes = 0 ∧ measured.elapsedSecs = 1) ∨
          ∃ newest start counters first,
            (probe.imprints attempts).getLast? = some newest ∧ newest.restartedAt = some start ∧
              probe.readCounters attempt.table = .ok counters ∧
              (Time.Ticker.read attempt.clock).1 = some first ∧
              measured.deltaBytes = Counters.distance (counters.get direction)
                (newest.counters.get direction) ∧
              measured.elapsedSecs = (first.since start).toFloat := by
  have state := attempting_eq_keeping made attempts
  have aimed : probe.direction = direction := by
    obtain ⟨_, rfl⟩ := of_eq_ok made
    rfl
  rw [state]
  refine ⟨rfl, paired_keeping_iff, ?_⟩
  intro attempt measured logged paired
  obtain ⟨counters, read, bytes, untimed, timed⟩ := utilization_keeping logged
  rw [aimed] at bytes
  rcases (probe.imprints attempts).eq_nil_or_concat' with none | ⟨earlier, newest, split⟩
  · rw [none] at bytes untimed ⊢
    exact .inl ⟨rfl, bytes, untimed rfl⟩
  · have last : (probe.imprints attempts).getLast? = some newest := by simp [split]
    obtain ⟨start, restarted⟩ :=
      Option.ne_none_iff_exists'.mp (paired_keeping_iff.mp paired newest last)
    have running : newestRestart (probe.imprints attempts) = some start := by
      rw [split, newestRestart_concat, restarted, Option.some_or]
    obtain ⟨first, found, seconds⟩ := timed start running
    rw [last, Option.elim_some] at bytes
    exact .inr ⟨newest, start, counters, first, last, restarted, read, found, bytes, seconds⟩

def unwoundFirst : List (Attempt Time.Clock) :=
  [⟨.text "a\nb\neth0: 5 0 0 0 0 0 0 0 7\n", { failsAfter := some 0 }⟩]

/-- The probe after that: it remembers counters, and no start. -/
def startless : Probe := { inbound with lastCounters := some ⟨5, 7⟩ }

/-- A capture that is not unwound makes up for one that was. -/
theorem paired_iff_newest_restarted_resumed :
    let resumed := unwoundFirst ++ [⟨.text "a\nb\neth0: 6 0 0 0 0 0 0 0 7\n", .steady⟩]
    Probe.of .received inbound.ceiling {} = .ok inbound ∧
      (inbound.attempting resumed).Paired (inbound.imprints resumed) := by
  intro resumed
  have made : Probe.of .received inbound.ceiling {} = .ok inbound := dif_pos (by decide)
  obtain ⟨-, paired, -⟩ := paired_iff_newest_restarted made resumed
  have kept : inbound.imprints resumed = [⟨⟨5, 7⟩, none⟩, ⟨⟨6, 7⟩, some .zero⟩] := by cbv
  refine ⟨made, paired.mpr ?_⟩
  rw [kept]
  rintro newest ⟨⟩
  exact Option.some_ne_none _

/-- A first capture that is unwound leaves counters and no start. The next one divides the bytes
since then by one second. -/
theorem unwound_first_unpaired :
    Probe.of .received inbound.ceiling {} = .ok inbound ∧
      (inbound.attempting unwoundFirst).lastCounters = some ⟨5, 7⟩ ∧
      (inbound.attempting unwoundFirst).stopwatch.startedAt = none ∧
      ¬(inbound.attempting unwoundFirst).Paired (inbound.imprints unwoundFirst) ∧
      ∃ measured, .utilization measured ∈ ((inbound.attempting unwoundFirst).capture
          (.text "a\nb\neth0: 1048581 0 0 0 0 0 0 0 7\n") Time.Clock.steady).1.events ∧
        measured.deltaBytes = 1048576 ∧ measured.elapsedSecs = 1 ∧ measured.rateMbps = 1 := by
  have made : Probe.of .received inbound.ceiling {} = .ok inbound := dif_pos (by decide)
  have left : inbound.attempting unwoundFirst = startless := by cbv
  refine ⟨made, by rw [left]; rfl, by rw [left]; rfl, ?_, ?_⟩
  · have kept : inbound.imprints unwoundFirst = [⟨⟨5, 7⟩, none⟩] := by cbv
    rw [attempting_eq_keeping made, paired_keeping_iff, kept]
    intro restarted
    exact restarted _ rfl rfl
  · rw [left]
    have read : startless.readCounters (.text "a\nb\neth0: 1048581 0 0 0 0 0 0 0 7\n") =
        .ok ⟨1048581, 7⟩ := by cbv
    have lapped : startless.stopwatch.lap Time.Clock.steady = _ :=
      Time.Stopwatch.lap_unstarted rfl rfl
    have moved : (startless.replaceCounters ⟨1048581, 7⟩).1 = ⟨1048576, 0⟩ := by decide
    rw [capture_read read lapped, moved]
    exact ⟨_, List.mem_singleton.mpr rfl, rfl, rfl, by decide⟩

end Probe

end WorkerVitals.Network
