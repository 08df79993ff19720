import WorkerVitals.Json.Read
import WorkerVitals.Json.Write
import WorkerVitals.Snapshot.Basic

/-! Snapshots as JSON text. A snapshot is written as an object with all four fields; it is read
from an object with any of them, or from a list of the four values in the order of the fields. -/
namespace WorkerVitals.Snapshot
open Json

inductive Field where
  | workerId
  | lastUpdateTime
  | metricStats
  | operatingRange
  deriving DecidableEq, Repr

def Field.all : List Field := [.workerId, .lastUpdateTime, .metricStats, .operatingRange]

def Field.name : Field → String
  | .workerId => "workerId"
  | .lastUpdateTime => "lastUpdateTime"
  | .metricStats => "metricStats"
  | .operatingRange => "operatingRange"

def Field.ofName? (name : String) : Option Field := Field.all.find? fun field => field.name == name

/-- The orders in which a program meets the entries of the two maps of a snapshot. -/
structure Walk where
  stats : List (String × List Float) → List (String × List Float)
  ranges : List (String × List Int64) → List (String × List Int64)
  stats_perm : ∀ entries, (stats entries).Perm entries
  ranges_perm : ∀ entries, (ranges entries).Perm entries

/-- Entries are met in the order of their names. -/
def Walk.sorted : Walk := ⟨id, id, fun _ => .refl _, fun _ => .refl _⟩

def writeEntries (write : α → List Char) (entries : List (String × List α)) : List Char :=
  writeObject (entries.map fun (name, items) => (name, writeList write items))

/-- The text of the value of a field, with the entries of maps as they are met. -/
def writeField (walk : Walk) (snapshot : Snapshot) : Field → List Char
  | .workerId => writeOption writeString snapshot.workerId
  | .lastUpdateTime => writeOption (fun n : Int64 => writeInt n.toInt) snapshot.lastUpdateTime
  | .metricStats =>
    writeOption (fun stats => writeEntries writeFloat (walk.stats stats.entries))
      snapshot.metricStats
  | .operatingRange =>
    writeOption (fun ranges =>
      writeEntries (fun n : Int64 => writeInt n.toInt) (walk.ranges ranges.entries))
      snapshot.operatingRange

/-- The JSON text of a snapshot whose maps are walked in some order. -/
def jsonIn (walk : Walk) (snapshot : Snapshot) : String :=
  .ofList (writeObject (Field.all.map fun field => (field.name, snapshot.writeField walk field)))

/-- The JSON text of a snapshot. -/
def json (snapshot : Snapshot) : String := snapshot.jsonIn .sorted

/-- A map from names to lists of values that take one token each; the last list of a name wins. -/
def readMap (read : Reader α) : Reader (NameMap (List α))
  | .openObject :: tokens =>
    readMembers (fun name map tokens => do
      let (items, rest) ← readList read (← readColon tokens)
      return (map.insert name items, rest)) NameMap.empty tokens
  | tokens => .error (mismatch tokens)

/-- The fields read so far; `some none` is a field that was null. -/
structure Draft where
  workerId : Option (Option String) := none
  lastUpdateTime : Option (Option Int64) := none
  metricStats : Option (Option (NameMap (List Float))) := none
  operatingRange : Option (Option (NameMap (List Int64))) := none

/-- Whether a field was read already. -/
def Draft.has (draft : Draft) : Field → Bool
  | .workerId => draft.workerId.isSome
  | .lastUpdateTime => draft.lastUpdateTime.isSome
  | .metricStats => draft.metricStats.isSome
  | .operatingRange => draft.operatingRange.isSome

/-- Reads the value of a field. -/
def Draft.readField (draft : Draft) (field : Field) : Reader Draft := fun tokens =>
  match field with
  | .workerId => (readOption readString tokens).map fun (value, rest) =>
    ({ draft with workerId := some value }, rest)
  | .lastUpdateTime => (readOption readInt tokens).map fun (value, rest) =>
    ({ draft with lastUpdateTime := some value }, rest)
  | .metricStats => (readOption (readMap readFloat) tokens).map fun (value, rest) =>
    ({ draft with metricStats := some value }, rest)
  | .operatingRange => (readOption (readMap readInt) tokens).map fun (value, rest) =>
    ({ draft with operatingRange := some value }, rest)

/-- Reads a member after its name. A field that was read already is refused before its value is
looked at; a member that is no field is passed over. -/
def Draft.readMember (name : String) (draft : Draft) : Reader Draft := fun tokens =>
  match Field.ofName? name with
  | some field =>
    if draft.has field then .error .misshapen
    else do draft.readField field (← readColon tokens)
  | none => do return (draft, ← skipValue (← readColon tokens))

/-- The snapshot of what was read; a field that was missing or null is none. -/
def Draft.snapshot (draft : Draft) : Snapshot where
  workerId := draft.workerId.join
  lastUpdateTime := draft.lastUpdateTime.join
  metricStats := draft.metricStats.join
  operatingRange := draft.operatingRange.join

/-- Reads the values of fields from a list after its opening bracket. A list that is too short has
the wrong shape. -/
def readFields (draft : Draft) : List Field → (first : Bool) → Reader Draft
  | [], _, tokens =>
    match tokens with
    | [] => .error .ended
    | .closeList :: rest => .ok (draft, rest)
    | _ :: _ => .error .malformed
  | field :: fields, first, tokens =>
    match tokens, first with
    | [], _ => .error .ended
    | .closeList :: _, _ => .error .misshapen
    | tokens, true => do
      let (draft, rest) ← draft.readField field tokens
      readFields draft fields false rest
    | .comma :: tokens, false => do
      let (draft, rest) ← draft.readField field tokens
      readFields draft fields false rest
    | _ :: _, false => .error .malformed

def read : Reader Snapshot := fun tokens =>
  match tokens with
  | .openObject :: tokens =>
    (readMembers Draft.readMember {} tokens).map fun (draft, rest) => (draft.snapshot, rest)
  | .openList :: tokens =>
    (readFields {} Field.all true tokens).map fun (draft, rest) => (draft.snapshot, rest)
  | tokens => .error (mismatch tokens)

/-- The snapshot that a JSON text stands for. -/
def ofJson (text : String) : Except Rejection Snapshot := readText read text

end WorkerVitals.Snapshot
