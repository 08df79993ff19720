import WorkerVitals.Proofs.Network.Table
import WorkerVitals.Proofs.Network.Unwinding

/-! The two directions of an interface. Both counters of a row are read, stored and compared by every
probe, and yet a probe tells only of its own: what the other counter shows makes no difference to a
run, and the directions can be exchanged with the columns. -/
namespace WorkerVitals

/-- An event as it is logged for another direction. -/
def Event.toward (direction : Network.Direction) : Event → Event
  | .utilization measured => .utilization { measured with direction }
  | event => event

/-- A capture as it is logged for another direction: all else is the same. -/
def Capture.toward (direction : Network.Direction) (capture : Capture) : Capture where
  outcome := capture.outcome
  events := capture.events.map (Event.toward direction)

namespace Network

namespace Direction

def position : Direction → Nat
  | .received => 0
  | .transmitted => 8

def opposite : Direction → Direction
  | .received => .transmitted
  | .transmitted => .received

theorem position_injective : Function.Injective position := by
  intro a b same
  cases a <;> cases b <;> first | rfl | cases same

theorem opposite_ne (direction : Direction) : direction.opposite ≠ direction := by
  cases direction <;> decide

end Direction

/-- A row from which both counters can be read. -/
def Legible (row : List (List Char)) : Prop :=
  ∀ direction : Direction, ∃ raw, row[direction.position]? = some raw ∧ Text.IsWord raw

theorem legible_iff {row : List (List Char)} : Legible row ↔
    ∀ direction ∈ [Direction.received, .transmitted],
      row[direction.position]?.any fun raw => Text.IsWord raw := by
  simp only [Option.any_eq_true, decide_eq_true_eq]
  constructor
  · exact fun legible direction _ => legible direction
  · exact fun legible direction => legible direction (by cases direction <;> simp)

instance (row : List (List Char)) : Decidable (Legible row) := decidable_of_iff _ legible_iff.symm

/-- A row before and after the counter of a direction was replaced by another numeral. -/
inductive Replaced (direction : Direction) : List (List Char) → List (List Char) → Prop where
  | replaced {row : List (List Char)} {numeral : List Char} (legible : Legible row)
      (word : Text.IsWord numeral) : Replaced direction row (row.set direction.position numeral)

/-- A row before and after its counters were exchanged. -/
inductive Exchanged : List (List Char) → List (List Char) → Prop where
  | exchanged {row : List (List Char)} {received transmitted : List Char} (legible : Legible row)
      (first : row[0]? = some received) (ninth : row[8]? = some transmitted) :
      Exchanged row ((row.set 0 transmitted).set 8 received)

/-- What a file has before and after a change of the row of an interface. -/
inductive Table.Changed (change : List (List Char) → List (List Char) → Prop) (interface : String) :
    File.Content → File.Content → Prop where
  | row {text other : String} {fields others : List (List Char)}
      (before : FirstRow text.toList interface.toList fields)
      (after : FirstRow other.toList interface.toList others)
      (changed : change fields others) : Changed change interface (.text text) (.text other)
  | rowless {text other : String}
      (before : ∀ index fields, ¬RowAt text.toList interface.toList index fields)
      (after : ∀ index fields, ¬RowAt other.toList interface.toList index fields) :
      Changed change interface (.text text) (.text other)
  | missing : Changed change interface .missing .missing
  | failed (failure : File.ReadFailure) :
      Changed change interface (.failed failure) (.failed failure)

/-- An attempt before and after such a change of its table; the clock is the same. -/
def Attempt.Changed {C : Type} (change : List (List Char) → List (List Char) → Prop)
    (interface : String) (attempt other : Attempt C) : Prop :=
  other.clock = attempt.clock ∧ Table.Changed change interface attempt.table other.table

section Rows

variable {row others : List (List Char)} {direction : Direction}

theorem Replaced.kept (changed : Replaced direction row others) :
    Legible row ∧ Legible others ∧
      others[direction.opposite.position]? = row[direction.opposite.position]? := by
  obtain @⟨numeral, legible, word⟩ := changed
  have unmoved {found : Direction} (other : found ≠ direction) :
      (row.set direction.position numeral)[found.position]? = row[found.position]? :=
    List.getElem?_set_ne (Direction.position_injective.ne other.symm)
  refine ⟨legible, ?_, unmoved direction.opposite_ne⟩
  intro found
  by_cases same : found = direction
  · obtain ⟨raw, there, -⟩ := legible direction
    obtain ⟨within, -⟩ := List.getElem?_eq_some_iff.mp there
    subst same
    exact ⟨_, List.getElem?_set_self within, word⟩
  · rw [unmoved same]
    exact legible found

theorem Exchanged.kept (changed : Exchanged row others) :
    Legible row ∧ Legible others ∧
      ∀ direction : Direction, others[direction.position]? = row[direction.opposite.position]? := by
  obtain @⟨received, transmitted, legible, first, ninth⟩ := changed
  obtain ⟨long, -⟩ := List.getElem?_eq_some_iff.mp ninth
  have crossed (direction : Direction) :
      ((row.set 0 transmitted).set 8 received)[direction.position]? =
        row[direction.opposite.position]? := by
    cases direction with
    | received =>
      refine (List.getElem?_set_ne (by decide)).trans (Eq.trans ?_ ninth.symm)
      exact List.getElem?_set_self (Nat.lt_trans (by decide) long)
    | transmitted =>
      refine Eq.trans ?_ first.symm
      exact List.getElem?_set_self (by rwa [List.length_set])
  refine ⟨legible, ?_, crossed⟩
  intro direction
  rw [crossed]
  exact legible direction.opposite

end Rows

namespace Probe

variable {C : Type} [Time.Ticker C] {probe other : Probe} {table changed : File.Content}

def reading (probe : Probe) (table : File.Content) : Except Fault UInt64 :=
  (probe.readCounters table).map (·.get probe.direction)

/-- What captures in turn come to, each with the clock it leaves. -/
def answers (probe : Probe) : List (Attempt C) → List (Capture × C)
  | [] => []
  | attempt :: rest =>
    let ended := probe.capture attempt.table attempt.clock
    (ended.1, ended.2.2) :: ended.2.1.answers rest

/-- Two probes that remember the same, each of its own direction. -/
structure Alike (probe other : Probe) : Prop where
  config : other.config = probe.config
  stopwatch : other.stopwatch = probe.stopwatch
  remembered : other.lastCounters.map (·.get other.direction) =
    probe.lastCounters.map (·.get probe.direction)

theorem replaceCounters_alike (alike : probe.Alike other) {counters others : Counters}
    (same : others.get other.direction = counters.get probe.direction) :
    (other.replaceCounters others).1.get other.direction =
        (probe.replaceCounters counters).1.get probe.direction ∧
      (probe.replaceCounters counters).2.Alike (other.replaceCounters others).2 := by
  refine ⟨?_, alike.config, alike.stopwatch, congrArg some same⟩
  have remembered := alike.remembered
  cases before : probe.lastCounters with
  | none =>
    rw [before, Option.map_none, Option.map_eq_none_iff] at remembered
    simp only [replaceCounters, before, remembered, Counters.get_zero]
  | some previous =>
    rw [before, Option.map_some, Option.map_eq_some_iff] at remembered
    obtain ⟨earlier, remembered, agreed⟩ := remembered
    simp only [replaceCounters, before, remembered, Counters.get_between, same, agreed]

theorem conclude_alike (alike : probe.Alike other) {delta others : Counters}
    (same : others.get other.direction = delta.get probe.direction)
    (elapsed : Option Time.Duration) :
    other.conclude others elapsed = (probe.conclude delta elapsed).toward other.direction := by
  have passed : other.seconds elapsed = probe.seconds elapsed := by
    unfold seconds
    rw [alike.config]
  unfold conclude
  rw [passed]
  cases probe.seconds elapsed with
  | error fault => rfl
  | ok seconds =>
    have measured : other.measure others seconds =
        { probe.measure delta seconds with direction := other.direction } := by
      simp only [measure, alike.config, same]
    simp only [measured]
    rfl

theorem finish_alike (alike : probe.Alike other) {delta others : Counters}
    (same : others.get other.direction = delta.get probe.direction) (clock : C) :
    (other.finish others clock).1 = (probe.finish delta clock).1.toward other.direction ∧
      (other.finish others clock).2.2 = (probe.finish delta clock).2.2 ∧
      (probe.finish delta clock).2.1.Alike (other.finish others clock).2.1 := by
  unfold finish
  rw [alike.stopwatch]
  split
  · exact ⟨rfl, rfl, alike⟩
  · exact ⟨conclude_alike alike same _, rfl, alike.config, rfl, alike.remembered⟩

/-- Captures of tables in which two such probes read the same come to the same, except for the
direction in what is logged, and leave the probes alike. -/
theorem capture_alike (alike : probe.Alike other)
    (same : other.reading changed = probe.reading table) (clock : C) :
    (other.capture changed clock).1 = (probe.capture table clock).1.toward other.direction ∧
      (other.capture changed clock).2.2 = (probe.capture table clock).2.2 ∧
      (probe.capture table clock).2.1.Alike (other.capture changed clock).2.1 := by
  rw [capture_sections, capture_sections]
  cases read : probe.readCounters table with
  | error fault =>
    cases readChanged : other.readCounters changed with
    | error also =>
      rw [reading, reading, read, readChanged] at same
      cases same
      exact ⟨rfl, rfl, alike⟩
    | ok others =>
      rw [reading, reading, read, readChanged] at same
      cases same
  | ok counters =>
    cases readChanged : other.readCounters changed with
    | error fault =>
      rw [reading, reading, read, readChanged] at same
      cases same
    | ok others =>
      rw [reading, reading, read, readChanged] at same
      obtain ⟨delta, replaced⟩ := replaceCounters_alike alike (Except.ok.inj same)
      exact finish_alike replaced delta clock

theorem frame_finish (probe : Probe) (delta : Counters) (clock : C) :
    ∃ stopwatch, (probe.finish delta clock).2.1 = { probe with stopwatch } := by
  unfold finish
  split
  · exact ⟨_, rfl⟩
  · exact ⟨_, rfl⟩

/-- A capture changes neither what a probe reads nor its direction. -/
theorem frame_capture (probe : Probe) (table : File.Content) (clock : C) :
    (probe.capture table clock).2.1.reading = probe.reading ∧
      (probe.capture table clock).2.1.direction = probe.direction := by
  obtain ⟨lastCounters, stopwatch, same⟩ : ∃ lastCounters stopwatch,
      (probe.capture table clock).2.1 = { probe with lastCounters, stopwatch } := by
    rw [capture_sections]
    cases probe.readCounters table with
    | error fault => exact ⟨_, _, rfl⟩
    | ok counters =>
      obtain ⟨stopwatch, same⟩ := frame_finish (probe.replaceCounters counters).2
        (probe.replaceCounters counters).1 clock
      exact ⟨_, stopwatch, same⟩
  rw [same]
  refine ⟨?_, rfl⟩
  funext content
  cases content <;> rfl

/-- Runs over attempts in which two such probes read the same come to the same in every capture,
except for the direction in what is logged. -/
theorem answers_alike (alike : probe.Alike other) {attempts others : List (Attempt C)}
    (same : List.Forall₂ (fun attempt changed => changed.clock = attempt.clock ∧
      other.reading changed.table = probe.reading attempt.table) attempts others) :
    other.answers others =
      (probe.answers attempts).map fun answer => (answer.1.toward other.direction, answer.2) := by
  induction attempts generalizing probe other others with
  | nil =>
    cases same
    rfl
  | cons attempt rest ih =>
    obtain _ | @⟨_, changed, _, others, ⟨clock, read⟩, later⟩ := same
    obtain ⟨capture, left, alike⟩ := capture_alike alike read attempt.clock
    obtain ⟨reading, direction⟩ := frame_capture probe attempt.table attempt.clock
    obtain ⟨readingChanged, directionChanged⟩ := frame_capture other changed.table attempt.clock
    rw [← reading, ← readingChanged] at later
    have rest := ih alike later
    rw [directionChanged] at rest
    simp only [answers, clock, capture, left, rest, List.map_cons]

theorem alike_self (probe : Probe) : probe.Alike probe := ⟨rfl, rfl, rfl⟩

theorem answers_toward_own (probe : Probe) (attempts : List (Attempt C)) :
    ((probe.answers attempts).map fun answer => (answer.1.toward probe.direction, answer.2)) =
      probe.answers attempts :=
  (answers_alike probe.alike_self (List.forall₂_same.mpr fun _ _ => ⟨rfl, rfl⟩)).symm

theorem reading_row {text : String} {row : List (List Char)}
    (first : Table.FirstRow text.toList probe.config.interface.toList row) (legible : Legible row) :
    ∃ raw count, row[probe.direction.position]? = some raw ∧ Text.word? raw = some count ∧
      probe.reading (.text text) = .ok count := by
  obtain ⟨received, there, numeral⟩ := legible .received
  obtain ⟨transmitted, last, also⟩ := legible .transmitted
  obtain ⟨receivedCount, receives⟩ := numeral.exists_count
  obtain ⟨transmittedCount, transmits⟩ := also.exists_count
  have verdict : Table.Decides text probe.config.interface probe.config.statFile
      (.ok ⟨receivedCount, transmittedCount⟩) := .read first there receives last transmits
  rw [reading, readCounters, verdict.counters_eq]
  cases probe.direction with
  | received => exact ⟨received, receivedCount, there, Text.word?_eq_some_iff.mpr receives, rfl⟩
  | transmitted => exact ⟨transmitted, transmittedCount, last, Text.word?_eq_some_iff.mpr transmits, rfl⟩

/-- What a probe reads before a change and another one after it is the same when the change carries
the counter of the one to the place of the other. -/
theorem reading_changed {change : List (List Char) → List (List Char) → Prop}
    (config : other.config = probe.config)
    (kept : ∀ row others, change row others → Legible row ∧ Legible others ∧
      others[other.direction.position]? = row[probe.direction.position]?)
    (changes : Table.Changed change probe.config.interface table changed) :
    other.reading changed = probe.reading table := by
  cases changes with
  | row before after crossed =>
    obtain ⟨legible, also, same⟩ := kept _ _ crossed
    obtain ⟨raw, count, there, word, read⟩ := reading_row before legible
    rw [← config] at after
    obtain ⟨rawAfter, countAfter, thereAfter, wordAfter, readAfter⟩ := reading_row after also
    obtain rfl : rawAfter = raw := Option.some.inj (thereAfter.symm.trans (same.trans there))
    obtain rfl : countAfter = count := Option.some.inj (wordAfter.symm.trans word)
    rw [read, readAfter]
  | rowless before after =>
    have unfound := Table.findRow?_eq_none_iff.mpr before
    have unfoundAfter := Table.findRow?_eq_none_iff.mpr after
    rw [reading, reading, readCounters, readCounters, config, Table.counters_of_rowless unfound,
      Table.counters_of_rowless unfoundAfter]
    rfl
  | missing =>
    rw [reading, reading, readCounters, readCounters, config]
    rfl
  | failed failure =>
    rw [reading, reading, readCounters, readCounters, config]
    rfl

/-- A probe tells of its own column only. Whatever numerals are put into the column of the other
direction, no capture of a run comes to anything else; and a run over tables with exchanged columns
is the run of the probe of the other direction over the tables as they were. -/
theorem answers_own_column {config : Config} {ceiling otherCeiling : Ceiling}
    {received transmitted : Probe}
    (receives : Probe.of .received ceiling config = .ok received)
    (transmits : Probe.of .transmitted otherCeiling config = .ok transmitted)
    (attempts others : List (Attempt C)) :
    (List.Forall₂ (Attempt.Changed (Replaced .transmitted) config.interface) attempts others →
        received.answers others = received.answers attempts) ∧
      (List.Forall₂ (Attempt.Changed (Replaced .received) config.interface) attempts others →
        transmitted.answers others = transmitted.answers attempts) ∧
      (List.Forall₂ (Attempt.Changed Exchanged config.interface) attempts others →
        received.answers others = (transmitted.answers attempts).map fun answer =>
          (answer.1.toward .received, answer.2)) := by
  obtain ⟨positive, rfl⟩ := of_eq_ok receives
  obtain ⟨-, rfl⟩ := of_eq_ok transmits
  refine ⟨?_, ?_, ?_⟩
  · intro changes
    rw [answers_alike (alike_self _) (changes.imp ?_), answers_toward_own]
    rintro attempt changed ⟨clock, table⟩
    exact ⟨clock, reading_changed rfl (fun _ _ => Replaced.kept) table⟩
  · intro changes
    rw [answers_alike (alike_self _) (changes.imp ?_), answers_toward_own]
    rintro attempt changed ⟨clock, table⟩
    exact ⟨clock, reading_changed rfl (fun _ _ => Replaced.kept) table⟩
  · intro changes
    have alike : Probe.Alike ⟨.transmitted, otherCeiling, config, positive, none, {}⟩
        ⟨.received, ceiling, config, positive, none, {}⟩ := ⟨rfl, rfl, rfl⟩
    refine answers_alike alike (changes.imp ?_)
    rintro attempt changed ⟨clock, table⟩
    refine ⟨clock, reading_changed rfl ?_ table⟩
    intro row others crossed
    obtain ⟨legible, also, same⟩ := crossed.kept
    exact ⟨legible, also, same .received⟩

def tallied (seconds : Nat) (received transmitted : String) : Attempt Time.Clock where
  table := .text ("a\nb\neth0: " ++ received ++ " 0 0 0 0 0 0 0 " ++ transmitted)
  clock := { now := .ofParts seconds 0 }

def tallyRow (received transmitted : Char) : List (List Char) :=
  [received] :: List.replicate 7 ['0'] ++ [[transmitted]]

private theorem changed_tallied {change : List (List Char) → List (List Char) → Prop}
    {row others : List (List Char)} (changed : change row others) {seconds : Nat}
    {received transmitted otherReceived otherTransmitted : String}
    (before : Table.findRow? ("a\nb\neth0: " ++ received ++ " 0 0 0 0 0 0 0 " ++ transmitted).toList
      "eth0".toList = some row)
    (after : Table.findRow?
      ("a\nb\neth0: " ++ otherReceived ++ " 0 0 0 0 0 0 0 " ++ otherTransmitted).toList
      "eth0".toList = some others) :
    Attempt.Changed change "eth0" (tallied seconds received transmitted)
      (tallied seconds otherReceived otherTransmitted) :=
  ⟨rfl, .row (Table.findRow?_eq_some_iff.mp before) (Table.findRow?_eq_some_iff.mp after) changed⟩

/-- Three bytes were received and two transmitted, whatever the other column shows. -/
theorem answers_own_column_tallied :
    ∃ received transmitted,
      Probe.of .received inbound.ceiling {} = .ok received ∧
        Probe.of .transmitted inbound.ceiling {} = .ok transmitted ∧
        received.answers [tallied 0 "5" "1", tallied 1 "8" "9"] =
          received.answers [tallied 0 "5" "7", tallied 1 "8" "9"] ∧
        transmitted.answers [tallied 0 "5" "7", tallied 1 "2" "9"] =
          transmitted.answers [tallied 0 "5" "7", tallied 1 "8" "9"] ∧
        received.answers [tallied 0 "7" "5", tallied 1 "9" "8"] =
          (transmitted.answers [tallied 0 "5" "7", tallied 1 "8" "9"]).map fun answer =>
            (answer.1.toward .received, answer.2) := by
  have receives : Probe.of .received inbound.ceiling {} = .ok inbound := dif_pos (by decide)
  have transmits : Probe.of .transmitted inbound.ceiling {} =
      .ok { inbound with direction := .transmitted } := dif_pos (by decide)
  have early : Legible (tallyRow '5' '7') := by decide
  have late : Legible (tallyRow '8' '9') := by decide
  obtain ⟨sent, -, -⟩ := answers_own_column receives transmits
    [tallied 0 "5" "7", tallied 1 "8" "9"] [tallied 0 "5" "1", tallied 1 "8" "9"]
  obtain ⟨-, got, -⟩ := answers_own_column receives transmits
    [tallied 0 "5" "7", tallied 1 "8" "9"] [tallied 0 "5" "7", tallied 1 "2" "9"]
  obtain ⟨-, -, crossed⟩ := answers_own_column receives transmits
    [tallied 0 "5" "7", tallied 1 "8" "9"] [tallied 0 "7" "5", tallied 1 "9" "8"]
  have sentFirst := @Replaced.replaced .transmitted _ ['1'] early (by decide)
  have sentSecond := @Replaced.replaced .transmitted _ ['9'] late (by decide)
  have gotFirst := @Replaced.replaced .received _ ['5'] early (by decide)
  have gotSecond := @Replaced.replaced .received _ ['2'] late (by decide)
  have crossedFirst := @Exchanged.exchanged _ ['5'] ['7'] early rfl rfl
  have crossedSecond := @Exchanged.exchanged _ ['8'] ['9'] late rfl rfl
  refine ⟨_, _, receives, transmits, sent (.cons ?_ (.cons ?_ .nil)),
    got (.cons ?_ (.cons ?_ .nil)), crossed (.cons ?_ (.cons ?_ .nil))⟩
  · exact changed_tallied sentFirst (by cbv) (by cbv)
  · exact changed_tallied sentSecond (by cbv) (by cbv)
  · exact changed_tallied gotFirst (by cbv) (by cbv)
  · exact changed_tallied gotSecond (by cbv) (by cbv)
  · exact changed_tallied crossedFirst (by cbv) (by cbv)
  · exact changed_tallied crossedSecond (by cbv) (by cbv)

end Probe

end Network

end WorkerVitals
