import WorkerVitals.Proofs.Json.Yield
import WorkerVitals.Snapshot.Wire

namespace WorkerVitals.Snapshot
open Json

def samples (snapshot : Snapshot) : List Float :=
  snapshot.metricStats.elim [] fun stats => stats.values.flatten

def allFinite (snapshot : Snapshot) : Bool := snapshot.samples.all (·.isFinite)

theorem allFinite_eq (snapshot : Snapshot) : snapshot.allFinite =
    snapshot.metricStats.all fun stats => stats.values.all (·.all (·.isFinite)) := by
  unfold allFinite samples
  cases snapshot.metricStats with
  | none => rfl
  | some stats => exact List.all_flatten

/-- Reads a list and puts it under a name. -/
def readEntry {α : Type} (read : Reader α) (name : String) (map : NameMap (List α)) :
    Reader (NameMap (List α)) := fun tokens => do
  let (items, rest) ← readList read (← readColon tokens)
  return (map.insert name items, rest)

def FiniteStats (stats : NameMap (List Float)) : Prop :=
  ∀ items ∈ stats.values, ∀ x ∈ items, x.isFinite = true

theorem finiteStats_insert {stats : NameMap (List Float)} (finite : FiniteStats stats)
    {items : List Float} (added : ∀ x ∈ items, x.isFinite = true) (name : String) :
    FiniteStats (stats.insert name items) := by
  intro values listed
  obtain ⟨entry, member, rfl⟩ := List.mem_map.mp listed
  rcases NameMap.mem_insertEntry member with rfl | old
  · exact added
  · exact finite _ (List.mem_map_of_mem old)

theorem yields_readMap : Yields (readMap readFloat) FiniteStats := by
  have members : Yields (readMembers (readEntry readFloat) NameMap.empty) FiniteStats := by
    refine yields_readMembers ?_ fun _ listed => absurd listed List.not_mem_nil
    intro name kept held tokens next rest given
    obtain ⟨items, -, given⟩ := bind_eq_ok given
    obtain ⟨⟨list, _⟩, read, given⟩ := bind_eq_ok given
    cases given
    exact finiteStats_insert held (yields_readList yields_readFloat _ _ _ read) name
  intro tokens stats rest found
  unfold readMap at found
  split at found
  · exact members _ _ _ found
  · cases found

namespace Draft

/-- All samples read so far are finite. -/
def Finite (draft : Draft) : Prop := ∀ stats ∈ draft.metricStats.join, FiniteStats stats

theorem yields_readField {draft : Draft} (held : draft.Finite) (field : Field) :
    Yields (draft.readField field) Finite := by
  intro tokens next rest found
  cases field with
  | metricStats =>
    obtain ⟨⟨value, _⟩, read, same⟩ := map_eq_ok found
    cases same
    exact yields_readOption yields_readMap _ _ _ read
  | _ =>
    obtain ⟨⟨value, _⟩, -, same⟩ := map_eq_ok found
    cases same
    exact held

theorem yields_readMember (name : String) (draft : Draft) (held : draft.Finite) :
    Yields (readMember name draft) Finite := by
  intro tokens next rest found
  unfold readMember at found
  split at found
  · split at found
    · cases found
    · obtain ⟨value, -, found⟩ := bind_eq_ok found
      exact yields_readField held _ _ _ _ found
  · obtain ⟨value, -, found⟩ := bind_eq_ok found
    obtain ⟨after, -, found⟩ := bind_eq_ok found
    cases found
    exact held

end Draft

theorem yields_readFields {draft : Draft} (held : draft.Finite) (fields : List Field)
    (first : Bool) : Yields (readFields draft fields first) Draft.Finite := by
  induction fields generalizing draft first with
  | nil =>
    intro tokens next rest found
    unfold readFields at found
    split at found
    · cases found
    · cases found
      exact held
    · cases found
  | cons field fields ih =>
    -- The value of a field is read alike at the start and after a comma.
    have onward (tokens : List Token) : Yields (fun _ => draft.readField field tokens >>=
        fun read => readFields read.1 fields false read.2) Draft.Finite := by
      intro _ next rest found
      obtain ⟨⟨later, _⟩, read, found⟩ := bind_eq_ok found
      exact ih (Draft.yields_readField held field _ _ _ read) _ _ _ _ found
    intro tokens next rest found
    unfold readFields at found
    split at found
    · cases found
    · cases found
    · exact onward _ [] _ _ found
    · exact onward _ [] _ _ found
    · cases found

theorem yields_read : Yields read fun snapshot => snapshot.allFinite = true := by
  have finite (draft : Draft) (held : draft.Finite) : draft.snapshot.allFinite = true := by
    rw [allFinite_eq, Option.all_eq_true]
    intro stats present
    simpa [FiniteStats] using held stats present
  have started : ({} : Draft).Finite := by rintro _ ⟨⟩
  intro tokens snapshot rest found
  unfold read at found
  split at found
  · obtain ⟨⟨draft, _⟩, given, same⟩ := map_eq_ok found
    cases same
    exact finite draft (yields_readMembers Draft.yields_readMember started _ _ _ given)
  · obtain ⟨⟨draft, _⟩, given, same⟩ := map_eq_ok found
    cases same
    exact finite draft (yields_readFields started _ _ _ _ _ given)
  · cases found

theorem allFinite_of_ofJson {text : String} {snapshot : Snapshot}
    (read : ofJson text = .ok snapshot) : snapshot.allFinite = true := by
  obtain ⟨⟨value, rest⟩, given, read⟩ := bind_eq_ok read
  have finite := yields_read _ _ _ given
  dsimp only at read
  split at read
  · cases read
    exact finite
  · cases read

end WorkerVitals.Snapshot
