import WorkerVitals.Proofs.Json.Reading
import WorkerVitals.Proofs.Snapshot.Finite
import WorkerVitals.Proofs.Snapshot.NameMap

/-! Snapshots and their JSON text. A snapshot with finite samples is read back from its text,
provided that each of its samples is; a sample that is not finite is written as null, and that is
refused. -/
namespace WorkerVitals.Snapshot
open Json

section Maps

variable {α : Type} {read : Reader α} {write : α → List Char} {token : α → Token} {fits : α → Bool}
  {entries : List (String × List α)} {map : NameMap (List α)}

def entryTokens (token : α → Token) (entries : List (String × List α)) : List Token :=
  objectTokens Prod.fst (fun entry => listTokens (entry.2.map token)) entries

theorem spells_writeEntries (same : entries.Perm map.entries)
    (each : ∀ items ∈ map.values, ∀ item ∈ items, Spells (write item) [token item]) :
    Spells (writeEntries write entries) (entryTokens token entries) :=
  spells_writeObject fun entry member =>
    spells_writeList (each entry.2 (List.mem_map_of_mem (same.mem_iff.mp member)))

theorem reads_readEntry {items : List α} {spelled : List Token} {fits : Bool}
    (list : Reads (readList read) spelled (shaped fits items)) (name : String)
    (map : NameMap (List α)) :
    Reads (readEntry read name map) (.colon :: spelled) (shaped fits (map.insert name items)) := by
  intro rest
  have unfolded : readEntry read name map (.colon :: spelled ++ rest) =
      (readList read (spelled ++ rest)).map fun found => (map.insert name found.1, found.2) := rfl
  rw [unfolded, list rest, map_shaped, map_shaped, map_shaped]

theorem reads_entries (same : entries.Perm map.entries)
    (proper : ∀ items ∈ map.values, ∀ item ∈ items, token item ≠ .closeList)
    (each : ∀ items ∈ map.values, ∀ item ∈ items,
      Reads read [token item] (shaped (fits item) item)) :
    Reads (readMap read) (entryTokens token entries)
      (shaped (map.values.all (·.all fits)) map) := by
  intro rest
  have listed {entry : String × List α} (member : entry ∈ entries) : entry.2 ∈ map.values :=
    List.mem_map_of_mem (same.mem_iff.mp member)
  have object := readMembers_members (fun entry member kept => reads_readEntry
    (reads_list (proper _ (listed member)) (each _ (listed member))) entry.1 kept)
    NameMap.empty rest
  have whole :
      entries.foldl (fun kept entry => kept.insert entry.1 entry.2) NameMap.empty = map :=
    NameMap.ofList_perm same
  have all : (entries.all fun entry => entry.2.all fits) = map.values.all (·.all fits) := by
    rw [same.all_eq, NameMap.values, List.all_map]
    rfl
  rw [foldlM_shaped, whole, all] at object
  exact object

end Maps

/-- Each finite sample is read back from what is written for it. -/
def Faithful (snapshot : Snapshot) : Prop :=
  ∀ x ∈ snapshot.samples, x.isFinite = true → Rereads x

instance (snapshot : Snapshot) : Decidable snapshot.Faithful :=
  inferInstanceAs (Decidable (∀ x ∈ snapshot.samples, x.isFinite = true → Rereads x))

/-- The tokens of a value that may be missing. -/
def optionTokens {α : Type} (spelled : α → List Token) (value : Option α) : List Token :=
  value.elim [.null] spelled

/-- The tokens of the value of a field, with the entries of maps as they are met. -/
def fieldTokens (walk : Walk) (snapshot : Snapshot) : Field → List Token
  | .workerId => optionTokens (fun name => [.text (.ok name)]) snapshot.workerId
  | .lastUpdateTime =>
    optionTokens (fun n : Int64 => [.number (.ofInt n.toInt)]) snapshot.lastUpdateTime
  | .metricStats =>
    optionTokens (fun stats => entryTokens floatToken (walk.stats stats.entries))
      snapshot.metricStats
  | .operatingRange =>
    optionTokens (fun ranges => entryTokens (fun n : Int64 => .number (.ofInt n.toInt))
      (walk.ranges ranges.entries)) snapshot.operatingRange

/-- Takes over the value that a snapshot has for a field. -/
def Draft.put (snapshot : Snapshot) (draft : Draft) : Field → Draft
  | .workerId => { draft with workerId := some snapshot.workerId }
  | .lastUpdateTime => { draft with lastUpdateTime := some snapshot.lastUpdateTime }
  | .metricStats => { draft with metricStats := some snapshot.metricStats }
  | .operatingRange => { draft with operatingRange := some snapshot.operatingRange }

/-- Whether a field has a value that can be read back. -/
def fits (snapshot : Snapshot) : Field → Bool
  | .metricStats => snapshot.allFinite
  | .workerId | .lastUpdateTime | .operatingRange => true

/-- Takes over a field, unless it was read before or its value cannot be read back. -/
def Draft.take (snapshot : Snapshot) (draft : Draft) (field : Field) : Except Rejection Draft :=
  if draft.has field then .error .misshapen
  else shaped (snapshot.fits field) (draft.put snapshot field)

theorem spells_writeOption {α : Type} {write : α → List Char} {spelled : α → List Token}
    {value : Option α} (each : ∀ x ∈ value, Spells (write x) (spelled x)) :
    Spells (writeOption write value) (optionTokens spelled value) := by
  cases value with
  | none => exact spells_writeNull
  | some x => exact each x rfl

theorem Faithful.sample {snapshot : Snapshot} (faithful : snapshot.Faithful)
    {stats : NameMap (List Float)} (present : stats ∈ snapshot.metricStats) {items : List Float}
    (listed : items ∈ stats.values) {x : Float} (member : x ∈ items) :
    x.isFinite = true → Rereads x := by
  apply faithful
  rw [samples, present]
  exact List.mem_flatten_of_mem listed member

theorem spells_writeField {snapshot : Snapshot} (faithful : snapshot.Faithful) (walk : Walk)
    (field : Field) : Spells (snapshot.writeField walk field) (snapshot.fieldTokens walk field) := by
  cases field with
  | workerId => exact spells_writeOption fun name _ => spells_writeString name
  | lastUpdateTime => exact spells_writeOption fun n _ => spells_writeInt n.toInt
  | metricStats =>
    exact spells_writeOption fun stats present => spells_writeEntries (walk.stats_perm _)
      fun items listed x member => (floatToken_spec (faithful.sample present listed member)).1
  | operatingRange =>
    exact spells_writeOption fun ranges _ => spells_writeEntries (walk.ranges_perm _)
      fun _ _ n _ => spells_writeInt n.toInt

theorem reads_readOption {α : Type} {read : Reader α} {spelled : α → List Token} {fits : α → Bool}
    {value : Option α}
    (present : ∀ x ∈ value, ∃ first later, spelled x = first :: later ∧ first ≠ .null)
    (each : ∀ x ∈ value, Reads read (spelled x) (shaped (fits x) x)) :
    Reads (readOption read) (optionTokens spelled value) (shaped (value.all fits) value) := by
  cases value with
  | none => exact reads_none read
  | some x =>
    obtain ⟨first, later, begins, different⟩ := present x rfl
    have reads := each x rfl
    rw [begins] at reads
    have option := reads.some different
    rw [map_shaped, ← begins] at option
    exact option

theorem reads_readField {snapshot : Snapshot} (faithful : snapshot.Faithful) (walk : Walk)
    (draft : Draft) (field : Field) :
    Reads (draft.readField field) (snapshot.fieldTokens walk field)
      (shaped (snapshot.fits field) (draft.put snapshot field)) := by
  cases field with
  | workerId =>
    have option : Reads (readOption readString) (snapshot.fieldTokens walk .workerId)
        (shaped (snapshot.workerId.all fun _ => true) snapshot.workerId) :=
      reads_readOption (fun _ _ => ⟨_, [], rfl, by simp⟩) fun name _ => reads_string name
    rw [Option.all_true] at option
    exact option.map fun value => { draft with workerId := some value }
  | lastUpdateTime =>
    have option : Reads (readOption readInt) (snapshot.fieldTokens walk .lastUpdateTime)
        (shaped (snapshot.lastUpdateTime.all fun _ => true) snapshot.lastUpdateTime) :=
      reads_readOption (fun _ _ => ⟨_, [], rfl, by simp⟩) fun n _ => reads_int n
    rw [Option.all_true] at option
    exact option.map fun value => { draft with lastUpdateTime := some value }
  | metricStats =>
    have option : Reads (readOption (readMap readFloat)) (snapshot.fieldTokens walk .metricStats)
        (shaped (snapshot.metricStats.all fun stats => stats.values.all (·.all (·.isFinite)))
          snapshot.metricStats) :=
      reads_readOption (fun _ _ => ⟨_, _, rfl, by simp⟩) fun stats present =>
        reads_entries (walk.stats_perm _)
          (fun items listed x member => (floatToken_spec (faithful.sample present listed member)).2.1)
          (fun items listed x member => (floatToken_spec (faithful.sample present listed member)).2.2)
    rw [← allFinite_eq] at option
    exact option.map fun value => { draft with metricStats := some value }
  | operatingRange =>
    have option : Reads (readOption (readMap readInt)) (snapshot.fieldTokens walk .operatingRange)
        (shaped (snapshot.operatingRange.all fun ranges => ranges.values.all (·.all fun _ => true))
          snapshot.operatingRange) :=
      reads_readOption (fun _ _ => ⟨_, _, rfl, by simp⟩) fun ranges _ =>
        reads_entries (walk.ranges_perm _) (fun _ _ _ _ => by simp) (fun _ _ n _ => reads_int n)
    have all : (snapshot.operatingRange.all fun ranges => ranges.values.all (·.all fun _ => true)) =
        true := by cases snapshot.operatingRange <;> simp
    rw [all] at option
    exact option.map fun value => { draft with operatingRange := some value }

theorem reads_readMember {snapshot : Snapshot} {field : Field} {spelled : List Token} (draft : Draft)
    (reads : Reads (draft.readField field) spelled
      (shaped (snapshot.fits field) (draft.put snapshot field))) :
    Reads (Draft.readMember field.name draft) (.colon :: spelled) (draft.take snapshot field) := by
  intro rest
  have known : Field.ofName? field.name = some field := by cases field <;> decide
  unfold Draft.readMember Draft.take
  rw [known]
  dsimp only
  split
  · rfl
  · exact reads rest

/-- The fields of a snapshot, taken over one after the other, make it up again. -/
theorem foldlM_take (snapshot : Snapshot) :
    (Field.all.foldlM (Draft.take snapshot) {}).map Draft.snapshot =
      shaped snapshot.allFinite snapshot := by
  cases finite : snapshot.allFinite <;>
    simp [Field.all, Draft.take, Draft.has, Draft.put, shaped, fits, finite] <;> rfl

/-- An object is read as the snapshot of what its members come to, taken one after the other. -/
theorem reads_object {β : Type} {name : β → String} {spelled : β → List Token}
    {step : Draft → β → Except Rejection Draft} {members : List β}
    (each : ∀ member ∈ members, ∀ draft,
      Reads (Draft.readMember (name member) draft) (.colon :: spelled member) (step draft member)) :
    Reads read (objectTokens name spelled members)
      ((members.foldlM step {}).map Draft.snapshot) := by
  intro rest
  have opened : read (objectTokens name spelled members ++ rest) =
      (readMembers Draft.readMember {} ((objectTokens name spelled members).tail ++ rest)).map
        fun found => (found.1.snapshot, found.2) := rfl
  rw [opened, readMembers_members each]
  cases members.foldlM step {} <;> rfl

/-- In whichever order the entries are written, the text of a snapshot is read as the snapshot, or
refused for the shape of a sample. -/
theorem ofJson_jsonIn {snapshot : Snapshot} (faithful : snapshot.Faithful) (walk : Walk) :
    ofJson (snapshot.jsonIn walk) = shaped snapshot.allFinite snapshot := by
  have object : Spells
      (writeObject (Field.all.map fun field => (field.name, snapshot.writeField walk field)))
      (objectTokens Field.name (snapshot.fieldTokens walk) Field.all) :=
    spells_writeObject fun field _ => spells_writeField faithful walk field
  have spelled : tokens (snapshot.jsonIn walk).toList =
      objectTokens Field.name (snapshot.fieldTokens walk) Field.all := by
    simpa [tokens, jsonIn] using object [] .finish
  have value := reads_object fun field (_ : field ∈ Field.all) draft =>
    reads_readMember draft (reads_readField faithful walk draft field)
  rw [foldlM_take snapshot] at value
  exact readText_eq value spelled

theorem ofJson_jsonIn_of_finite {snapshot : Snapshot} (faithful : snapshot.Faithful)
    (finite : ∀ x ∈ snapshot.samples, x.isFinite = true) (walk : Walk) :
    ofJson (snapshot.jsonIn walk) = .ok snapshot := by
  have all : snapshot.allFinite = true := List.all_eq_true.mpr finite
  rw [ofJson_jsonIn faithful, all]
  rfl

/-- The text of a snapshot is read as that snapshot if its samples are finite, and is refused for
its shape if one is not; this holds whenever the finite samples are read back one by one. So texts
tell snapshots with finite samples apart, and all that are read are such. The maps may be walked in
any order, and in another one for each text. -/
theorem json_reads_back :
    (∀ (snapshot : Snapshot) (walk : Walk), snapshot.Faithful →
      ((∀ x ∈ snapshot.samples, x.isFinite = true) →
          ofJson (snapshot.jsonIn walk) = .ok snapshot) ∧
        ((∃ x ∈ snapshot.samples, x.isFinite = false) →
          ofJson (snapshot.jsonIn walk) = .error .misshapen)) ∧
      (∀ (a b : Snapshot) (walk other : Walk), a.Faithful → b.Faithful →
        (∀ x ∈ a.samples, x.isFinite = true) → (∀ x ∈ b.samples, x.isFinite = true) →
          a.jsonIn walk = b.jsonIn other → a = b) ∧
      ∀ (text : String) (snapshot : Snapshot), ofJson text = .ok snapshot →
        (∀ x ∈ snapshot.samples, x.isFinite = true) ∧
          (snapshot.Faithful → ∀ walk : Walk, ofJson (snapshot.jsonIn walk) = .ok snapshot) := by
  refine ⟨fun snapshot walk faithful => ⟨(ofJson_jsonIn_of_finite faithful · walk), ?_⟩, ?_, ?_⟩
  · rintro ⟨x, member, infinite⟩
    have notAll : snapshot.allFinite = false :=
      List.all_eq_false.mpr ⟨x, member, by simp [infinite]⟩
    rw [ofJson_jsonIn faithful, notAll]
    rfl
  · intro a b walk other faithfulA faithfulB finiteA finiteB same
    have readA := ofJson_jsonIn_of_finite faithfulA finiteA walk
    rw [same, ofJson_jsonIn_of_finite faithfulB finiteB] at readA
    exact (Except.ok.inj readA).symm
  · intro text snapshot read
    have finite := List.all_eq_true.mp (allFinite_of_ofJson read)
    exact ⟨finite, fun faithful => ofJson_jsonIn_of_finite faithful finite⟩

/-- Entries are met against the order of their names. -/
def Walk.reversed : Walk :=
  ⟨List.reverse, List.reverse, fun _ => List.reverse_perm _, fun _ => List.reverse_perm _⟩

/-- A snapshot with quotes, controls and characters of four bytes in its names, an empty list of
samples, a negative zero and an empty map. -/
def reported : Snapshot where
  workerId := some "w\"\\\n\x01é😀"
  lastUpdateTime := some Int64.minValue
  metricStats := some (.ofList [("", []), ("\u2028", [12.5, -0.0, -1])])
  operatingRange := some .empty

def broken : Snapshot :=
  { reported with metricStats := some (.ofList [("", [12.5, 0 / 0])]) }

def unranged : Snapshot := { reported with operatingRange := none }

/-- The two orders give two texts for one snapshot. -/
theorem json_reads_back_reported :
    (reported.Faithful ∧ (∀ x ∈ reported.samples, x.isFinite = true) ∧
      reported.jsonIn .reversed ≠ reported.jsonIn .sorted ∧
      ofJson (reported.jsonIn .reversed) = .ok reported ∧
      ofJson (reported.jsonIn .sorted) = .ok reported) ∧
    (broken.Faithful ∧ (∃ x ∈ broken.samples, x.isFinite = false) ∧
      ofJson (broken.jsonIn .reversed) = .error .misshapen) ∧
    unranged.jsonIn .reversed ≠ reported.jsonIn .sorted := by
  have faithful : reported.Faithful := by decide +kernel
  have finite : ∀ x ∈ reported.samples, x.isFinite = true := by decide +kernel
  have faithfulBroken : broken.Faithful := by decide +kernel
  have infinite : ∃ x ∈ broken.samples, x.isFinite = false := by decide +kernel
  obtain ⟨written, apart, -⟩ := json_reads_back
  refine ⟨⟨faithful, finite, by decide +kernel, (written reported .reversed faithful).1 finite,
      (written reported .sorted faithful).1 finite⟩,
    ⟨faithfulBroken, infinite, (written broken .reversed faithfulBroken).2 infinite⟩, fun same => ?_⟩
  have equal := apart unranged reported .reversed .sorted faithful faithful finite finite same
  cases congrArg operatingRange equal

-- Not every finite number is read back: the digits of this one, 90.28571428571429, are rounded to a
-- mantissa before they are scaled.
example : ¬Rereads (Float.ofBits 4636053709268338981) := by decide +kernel

end WorkerVitals.Snapshot
