import WorkerVitals.Fault
import WorkerVitals.Network.Counters
import WorkerVitals.Text.Line

/-! The table of byte counters of all interfaces. After two header lines each row is a name, a
colon and numbers between blanks; the first row with the wanted name decides. -/
namespace WorkerVitals.Network.Table

def headerLines : Nat := 2

/-- A line cut at its first colon. -/
def splitColon? (line : List Char) : Option (List Char × List Char) :=
  match line.dropWhile (· != ':') with
  | [] => none
  | _ :: rest => some (line.takeWhile (· != ':'), rest)

/-- The fields of a line whose label is the name of an interface. -/
def matchRow? (interface : List Char) (line : List Char) : Option (List (List Char)) := do
  let (label, rest) ← splitColon? line
  if Text.trim label = interface then some (Text.fields rest) else none

/-- The fields of the first row of an interface. -/
def findRow? (content : List Char) (interface : List Char) : Option (List (List Char)) :=
  ((Text.lines content).drop headerLines).findSome? (matchRow? interface)

/-- A counter's place in a row, and the name it has in messages. -/
structure Column where
  position : Nat
  name : String

def receivedColumn : Column := ⟨0, "rx_bytes"⟩

def transmittedColumn : Column := ⟨8, "tx_bytes"⟩

/-- The counter in a column. A row that is too short is shown whole, with single spaces. -/
def Column.read (column : Column) (path : String) (row : List (List Char)) : Except Fault UInt64 :=
  match row[column.position]? with
  | none => .error (.fieldUnreadable path column.name (.ofList ([' '].intercalate row)))
  | some raw =>
    match Text.word? raw with
    | some count => .ok count
    | none => .error (.fieldUnreadable path column.name (.ofList raw))

/-- The counters of an interface in the text of a table; `path` is for messages. -/
def counters (content interface path : String) : Except Fault Counters :=
  match findRow? content.toList interface.toList with
  | none => .error (.interfaceNotFound interface path)
  | some row => do
    let received ← receivedColumn.read path row
    let transmitted ← transmittedColumn.read path row
    return ⟨received, transmitted⟩

end WorkerVitals.Network.Table
