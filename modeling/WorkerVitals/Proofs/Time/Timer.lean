import Mathlib.Data.List.ReduceOption
import WorkerVitals.Proofs.Time.Recorded

/-! Calls on one stopwatch, with a clock of which any read may fail and unwind the call that made it.
A call is logged with its answer and with what its reads gave. The log alone tells whether the
stopwatch runs, and since when: since the reading of the last restart that was not unwound. -/
namespace WorkerVitals.Time

variable {C : Type} [Ticker C]

inductive Call where
  | restart
  | elapsed
  deriving DecidableEq

/-- What a call comes to; it returns nothing when it is unwound. -/
inductive Answer where
  | unwound
  | restarted
  | elapsed (time : Option Duration)
  deriving DecidableEq

/-- A call that was made, with what its reads of the clock gave. -/
structure Made where
  call : Call
  answer : Answer
  readings : List (Option Duration)
  deriving DecidableEq

def Made.restartedAt (made : Made) : Option Duration :=
  if made.answer = .restarted then made.readings.head?.join else none

/-- The reading of the last restart that completed. -/
def lastRestart (log : List Made) : Option Duration := (log.filterMap Made.restartedAt).getLast?

def times (log : List Made) : List Duration := (log.flatMap Made.readings).reduceOption

/-- The time from a start to a later reading, which is zero when the clock went back in between. -/
def Passed (start now time : Duration) : Prop :=
  (start.nanos ≤ now.nanos → start.nanos + time.nanos = now.nanos) ∧
    (now.nanos < start.nanos → time.nanos = 0)

theorem passed_since (start now : Duration) : Passed start now (now.since start) := by
  unfold Passed Duration.since
  dsimp only
  omega

theorem Passed.mono {start earlier later short long : Duration} (first : Passed start earlier short)
    (second : Passed start later long) (ordered : earlier.nanos ≤ later.nanos) :
    short.nanos ≤ long.nanos := by
  unfold Passed at first second
  omega

theorem lastRestart_append (log more : List Made) :
    lastRestart (log ++ more) = (lastRestart more).or (lastRestart log) := by
  rw [lastRestart, List.filterMap_append, List.getLast?_append, lastRestart, lastRestart]

theorem lastRestart_singleton (made : Made) : lastRestart [made] = made.restartedAt := by
  cases restarted : made.restartedAt <;> simp [lastRestart, restarted]

theorem lastRestart_append_unrestarted (log : List Made) {more : List Made}
    (unrestarted : ∀ made ∈ more, made.answer ≠ .restarted) :
    lastRestart (log ++ more) = lastRestart log := by
  have nothing : more.filterMap Made.restartedAt = [] := by
    apply List.filterMap_eq_nil_iff.mpr
    intro made member
    exact if_neg (unrestarted made member)
  rw [lastRestart_append, lastRestart, nothing, List.getLast?_nil, Option.none_or]

theorem times_append (log more : List Made) : times (log ++ more) = times log ++ times more := by
  simp [times, List.reduceOption_append]

theorem times_cons {made : Made} {now : Duration} (read : made.readings = [some now])
    (rest : List Made) : times (made :: rest) = now :: times rest := by
  simp [times, read, List.reduceOption_cons_of_some]

structure Timer (C : Type) where
  stopwatch : Stopwatch := {}
  clock : C

namespace Timer

def fresh (clock : C) : Timer C := { clock }

/-- One call. The stopwatch stays as it is when the call is unwound. -/
def perform (timer : Timer C) : Call → Answer × Timer C
  | .restart =>
    match timer.stopwatch.restart timer.clock with
    | (none, clock) => (.unwound, { timer with clock })
    | (some stopwatch, clock) => (.restarted, { stopwatch, clock })
  | .elapsed =>
    match timer.stopwatch.elapsed timer.clock with
    | (none, clock) => (.unwound, { timer with clock })
    | (some time, clock) => (.elapsed time, { timer with clock })

/-- The same stopwatch with a record of what its clock gives from now on. -/
def recording (timer : Timer C) : Timer (Recorded C) :=
  { stopwatch := timer.stopwatch, clock := { clock := timer.clock } }

def made (timer : Timer C) (call : Call) : Made where
  call
  answer := (timer.perform call).1
  readings := (timer.recording.perform call).2.clock.readings

def run (timer : Timer C) (calls : List Call) : Timer C :=
  calls.foldl (fun timer call => (timer.perform call).2) timer

/-- The calls as they were made, in order. -/
def log (timer : Timer C) : List Call → List Made
  | [] => []
  | call :: rest => timer.made call :: (timer.perform call).2.log rest

theorem stopwatch_elapsed (timer : Timer C) :
    (timer.perform .elapsed).2.stopwatch = timer.stopwatch := by
  unfold perform
  dsimp only
  split <;> rfl

theorem made_elapsed_idle {timer : Timer C} (idle : timer.stopwatch.startedAt = none) :
    timer.made .elapsed = ⟨.elapsed, .elapsed none, []⟩ := by
  simp [made, recording, perform, Stopwatch.elapsed, idle]

theorem made_elapsed_running {timer : Timer C} {start : Duration}
    (running : timer.stopwatch.startedAt = some start) :
    timer.made .elapsed =
      { call := .elapsed
        answer := (Ticker.read timer.clock).1.elim .unwound fun now => .elapsed (some (now.since start))
        readings := [(Ticker.read timer.clock).1] } := by
  rcases read : Ticker.read timer.clock with ⟨_ | now, after⟩ <;>
    simp [made, recording, perform, Stopwatch.elapsed, running, read_recorded, read]

theorem made_restart (timer : Timer C) :
    timer.made .restart =
      { call := .restart
        answer := (Ticker.read timer.clock).1.elim .unwound fun _ => .restarted
        readings := [(Ticker.read timer.clock).1] } := by
  rcases read : Ticker.read timer.clock with ⟨_ | now, after⟩ <;>
    simp [made, recording, perform, Stopwatch.restart, read_recorded, read]

/-- A restart that cannot read the clock leaves the start before it in force. -/
theorem startedAt_restart (timer : Timer C) :
    (timer.perform .restart).2.stopwatch.startedAt =
      (Ticker.read timer.clock).1.or timer.stopwatch.startedAt := by
  rcases read : Ticker.read timer.clock with ⟨_ | now, after⟩ <;>
    simp [perform, Stopwatch.restart, read]

theorem answer_elapsed_ne_restarted (timer : Timer C) : (timer.made .elapsed).answer ≠ .restarted := by
  unfold made perform
  dsimp only
  split <;> rintro ⟨⟩

theorem restartedAt_restart (timer : Timer C) :
    (timer.made .restart).restartedAt = (Ticker.read timer.clock).1 := by
  cases read : (Ticker.read timer.clock).1 <;> simp [Made.restartedAt, made_restart, read]

theorem startedAt_perform (timer : Timer C) (call : Call) :
    (timer.perform call).2.stopwatch.startedAt =
      (timer.made call).restartedAt.or timer.stopwatch.startedAt := by
  cases call with
  | restart => rw [startedAt_restart, restartedAt_restart]
  | elapsed =>
    rw [stopwatch_elapsed, Made.restartedAt, if_neg timer.answer_elapsed_ne_restarted,
      Option.none_or]

/-- The log tells since when the stopwatch runs. -/
theorem startedAt_run (timer : Timer C) (calls : List Call) :
    (timer.run calls).stopwatch.startedAt =
      (lastRestart (timer.log calls)).or timer.stopwatch.startedAt := by
  induction calls generalizing timer with
  | nil => rfl
  | cons call rest ih =>
    calc ((timer.perform call).2.run rest).stopwatch.startedAt
      _ = (lastRestart ((timer.perform call).2.log rest)).or
            ((timer.made call).restartedAt.or timer.stopwatch.startedAt) := by
          rw [ih, startedAt_perform]
      _ = (lastRestart ([timer.made call] ++ (timer.perform call).2.log rest)).or
            timer.stopwatch.startedAt := by
          rw [lastRestart_append, lastRestart_singleton, Option.or_assoc]

theorem startedAt_fresh (clock : C) (calls : List Call) :
    ((fresh clock).run calls).stopwatch.startedAt = lastRestart ((fresh clock).log calls) :=
  (startedAt_run (fresh clock) calls).trans Option.or_none

/-- Each call in the log was made on the timer that the calls before it left. -/
theorem made_of_log {timer : Timer C} {calls : List Call} {earlier later : List Made} {made : Made}
    (logged : timer.log calls = earlier ++ made :: later) :
    ∃ before call, timer.log before = earlier ∧ (timer.run before).made call = made := by
  induction calls generalizing timer earlier with
  | nil => simp [log] at logged
  | cons call rest ih =>
    rw [log] at logged
    cases earlier with
    | nil => exact ⟨[], call, rfl, (List.cons.inj logged).1⟩
    | cons first earlier =>
      obtain ⟨same, logged⟩ := List.cons.inj logged
      obtain ⟨before, next, shown, here⟩ := ih logged
      exact ⟨call :: before, next, by rw [log, same, shown], here⟩

theorem lastRestart_log_eq_none_iff (timer : Timer C) (calls : List Call) :
    lastRestart (timer.log calls) = none ↔ ∀ made ∈ timer.log calls, made.answer ≠ .restarted := by
  rw [lastRestart, List.getLast?_eq_none_iff, List.filterMap_eq_nil_iff]
  refine forall₂_congr fun made member => ?_
  obtain ⟨earlier, later, logged⟩ := List.mem_iff_append.mp member
  obtain ⟨before, call, -, rfl⟩ := made_of_log logged
  refine ⟨fun unread => ?_, fun unrestarted => if_neg unrestarted⟩
  cases call with
  | elapsed => exact answer_elapsed_ne_restarted _
  | restart =>
    rw [restartedAt_restart] at unread
    rw [made_restart, unread]
    rintro ⟨⟩

theorem passed_of_answer {timer : Timer C} {call : Call} {time : Duration}
    (answered : (timer.made call).answer = .elapsed (some time)) :
    ∃ start now, timer.stopwatch.startedAt = some start ∧
      (timer.made call).readings = [some now] ∧ Passed start now time := by
  cases call with
  | restart =>
    rw [made_restart] at answered
    cases read : (Ticker.read timer.clock).1 <;> rw [read] at answered <;> cases answered
  | elapsed =>
    cases running : timer.stopwatch.startedAt with
    | none =>
      rw [made_elapsed_idle running] at answered
      cases answered
    | some start =>
      rw [made_elapsed_running running] at answered ⊢
      cases read : (Ticker.read timer.clock).1 with
      | none =>
        rw [read] at answered
        cases answered
      | some now =>
        rw [read] at answered
        cases answered
        exact ⟨start, now, rfl, rfl, passed_since start now⟩

theorem passed_of_log {clock : C} {calls : List Call} {earlier later : List Made} {made : Made}
    (logged : (fresh clock).log calls = earlier ++ made :: later) {time : Duration}
    (answered : made.answer = .elapsed (some time)) :
    ∃ start now, lastRestart earlier = some start ∧ made.readings = [some now] ∧
      Passed start now time := by
  obtain ⟨before, call, rfl, rfl⟩ := made_of_log logged
  rw [← startedAt_fresh]
  exact passed_of_answer answered

/-- Between two restarts the elapsed time does not decrease while the clock does not go back. -/
theorem elapsed_mono {clock : C} {calls : List Call} {earlier between later : List Made}
    {first second : Made}
    (logged : (fresh clock).log calls = earlier ++ first :: (between ++ second :: later))
    (forward : (times ((fresh clock).log calls)).Pairwise fun a b => a.nanos ≤ b.nanos)
    (unrestarted : ∀ made ∈ between, made.answer ≠ .restarted) {short long : Duration}
    (before : first.answer = .elapsed (some short))
    (after : second.answer = .elapsed (some long)) : short.nanos ≤ long.nanos := by
  obtain ⟨start, now, running, read, passed⟩ := passed_of_log logged before
  have apart : (fresh clock).log calls = (earlier ++ first :: between) ++ second :: later := by
    rw [logged, List.append_assoc, List.cons_append]
  obtain ⟨again, next, still, reread, longer⟩ := passed_of_log apart after
  have same : lastRestart (earlier ++ first :: between) = lastRestart earlier := by
    apply lastRestart_append_unrestarted
    intro made member
    rcases List.mem_cons.mp member with rfl | within
    · rw [before]
      rintro ⟨⟩
    · exact unrestarted made within
  obtain rfl : start = again := Option.some.inj (running.symm.trans (same.symm.trans still))
  rw [logged, times_append, times_cons read, times_append, times_cons reread] at forward
  obtain ⟨-, forward, -⟩ := List.pairwise_append.mp forward
  have ordered := (List.pairwise_cons.mp forward).1 next (by simp)
  exact passed.mono longer ordered

/-- A new stopwatch runs once a restart has completed. Before that the elapsed time is none, for
which the clock is not read. Afterwards it is the time from the reading of the last restart that
completed to a reading of its own, and none shorter follows before the next restart while the clock
does not go back. A restart that cannot read the clock leaves the stopwatch as it was, and so does
any question for the elapsed time. -/
theorem elapsed_follows_last_restart (clock : C) (calls : List Call) :
    let timer := (fresh clock).run calls
    let log := (fresh clock).log calls
    (timer.stopwatch.isRunning = true ↔ ∃ made ∈ log, made.answer = .restarted) ∧
      ((∀ made ∈ log, made.answer ≠ .restarted) →
        timer.made .elapsed = ⟨.elapsed, .elapsed none, []⟩) ∧
      (∀ start, lastRestart log = some start →
        ((Ticker.read timer.clock).1 = none → timer.made .elapsed = ⟨.elapsed, .unwound, [none]⟩) ∧
        ∀ now, (Ticker.read timer.clock).1 = some now →
          ∃ time, timer.made .elapsed = ⟨.elapsed, .elapsed (some time), [some now]⟩ ∧
            Passed start now time) ∧
      ((Ticker.read timer.clock).1 = none →
        timer.made .restart = ⟨.restart, .unwound, [none]⟩ ∧
          (timer.perform .restart).2.stopwatch = timer.stopwatch) ∧
      (∀ now, (Ticker.read timer.clock).1 = some now →
        timer.made .restart = ⟨.restart, .restarted, [some now]⟩ ∧
          (timer.perform .restart).2.stopwatch.startedAt = some now) ∧
      (timer.perform .elapsed).2.stopwatch = timer.stopwatch ∧
      ∀ (earlier between later : List Made) (first second : Made) (short long : Duration),
        log = earlier ++ first :: (between ++ second :: later) →
        (times log).Pairwise (fun a b => a.nanos ≤ b.nanos) →
        (∀ made ∈ between, made.answer ≠ .restarted) →
        first.answer = .elapsed (some short) → second.answer = .elapsed (some long) →
        short.nanos ≤ long.nanos := by
  intro timer log
  have unstarted := lastRestart_log_eq_none_iff (fresh clock) calls
  have started : timer.stopwatch.startedAt = lastRestart log := startedAt_fresh clock calls
  refine ⟨?_, fun unrestarted => ?_, fun start found => ⟨fun failed => ?_, fun now reads => ?_⟩,
    fun failed => ⟨?_, ?_⟩, fun now reads => ⟨?_, ?_⟩, timer.stopwatch_elapsed, ?_⟩
  · rw [Stopwatch.isRunning, started, Option.isSome_iff_ne_none, ne_eq, unstarted]
    push Not
    exact Iff.rfl
  · exact made_elapsed_idle (started.trans (unstarted.mpr unrestarted))
  · rw [made_elapsed_running (started.trans found), failed]
    rfl
  · rw [made_elapsed_running (started.trans found), reads]
    exact ⟨now.since start, rfl, passed_since start now⟩
  · rw [made_restart, failed]
    rfl
  · have kept := startedAt_restart timer
    rw [failed, Option.none_or] at kept
    exact congrArg Stopwatch.mk kept
  · rw [made_restart, reads]
    rfl
  · rw [startedAt_restart, reads]
    rfl
  · intro earlier between later first second short long logged forward unrestarted
    exact elapsed_mono logged forward unrestarted

/-- A clock that moves on by five nanoseconds with each read, and that fails at the fourth. -/
def faltering : Clock := { step := .ofNanos 5, failsAfter := some 3 }

/-- The second restart meets the failure, so that the next time runs from the first one. -/
theorem elapsed_follows_last_restart_faltering :
    let calls : List Call := [.elapsed, .restart, .elapsed, .elapsed]
    let timer := (fresh faltering).run calls
    let resumed := (fresh faltering).run (calls ++ [.restart])
    (fresh faltering).made .elapsed = ⟨.elapsed, .elapsed none, []⟩ ∧
      timer.stopwatch.isRunning = true ∧ (Ticker.read timer.clock).1 = none ∧
      timer.made .restart = ⟨.restart, .unwound, [none]⟩ ∧
      (Ticker.read resumed.clock).1 = some (.ofNanos 15) ∧
      (∃ time, resumed.made .elapsed = ⟨.elapsed, .elapsed (some time), [some (.ofNanos 15)]⟩ ∧
        Passed .zero (.ofNanos 15) time) ∧
      (times ((fresh faltering).log calls)).Pairwise (fun a b => a.nanos ≤ b.nanos) ∧
      (Duration.ofNanos 5).nanos ≤ (Duration.ofNanos 10).nanos := by
  intro calls timer resumed
  have logged : (fresh faltering).log calls =
      [⟨.elapsed, .elapsed none, []⟩, ⟨.restart, .restarted, [some .zero]⟩,
        ⟨.elapsed, .elapsed (some (.ofNanos 5)), [some (.ofNanos 5)]⟩,
        ⟨.elapsed, .elapsed (some (.ofNanos 10)), [some (.ofNanos 10)]⟩] := by decide +kernel
  have failed : (Ticker.read timer.clock).1 = none := by decide +kernel
  have reads : (Ticker.read resumed.clock).1 = some (.ofNanos 15) := by decide +kernel
  have restarted : lastRestart ((fresh faltering).log (calls ++ [.restart])) = some .zero := by
    decide +kernel
  have forward : (times ((fresh faltering).log calls)).Pairwise fun a b => a.nanos ≤ b.nanos := by
    rw [logged]
    decide
  obtain ⟨-, idle, -⟩ := elapsed_follows_last_restart faltering []
  obtain ⟨running, -, -, unwound, -, -, mono⟩ := elapsed_follows_last_restart faltering calls
  obtain ⟨-, -, measured, -⟩ := elapsed_follows_last_restart faltering (calls ++ [.restart])
  refine ⟨idle (by simp [log]), running.mpr ?_, failed, (unwound failed).1, reads,
    (measured .zero restarted).2 _ reads, forward, ?_⟩
  · rw [logged]
    exact ⟨_, .tail _ (.head _), rfl⟩
  · exact mono [_, _] [] [] _ _ _ _ logged forward (by simp) rfl rfl

end Timer

end WorkerVitals.Time
