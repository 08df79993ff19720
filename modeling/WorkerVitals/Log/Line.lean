import WorkerVitals.Event
import WorkerVitals.Json.Write
import WorkerVitals.Text.Quoted

namespace WorkerVitals

def Level.name : Level → String
  | .error => "ERROR"
  | .warn => "WARN"
  | .info => "INFO"
  | .debug => "DEBUG"
  | .trace => "TRACE"

namespace FieldValue

/-- Only strings are quoted in a plain line. -/
def plain : FieldValue → List Char
  | .words text => text.toList
  | .string text => Text.quoted text.toList
  | .bool b => (toString b).toList
  | .count n => Text.decimal n
  | .float x => Decimal.Layout.log.write (.ofFloat x)

def json : FieldValue → List Char
  | .words text | .string text => Json.writeString text
  | .bool b => (toString b).toList
  | .count n => Text.decimal n
  | .float x => Json.writeFloat x

end FieldValue

namespace Event

/-- The source and the message, and then each field with its name. -/
def body (event : Event) : List Char :=
  event.source.toList ++ ':' :: ' ' :: event.message.toList ++
    event.fields.flatMap fun (name, value) => ' ' :: name.toList ++ '=' :: value.plain

/-- A plain line without its time. -/
def line (event : Event) : String := .ofList (event.level.name.toList ++ ' ' :: event.body)

/-- A plain line with its time; the levels are flush right. -/
def timedLine (event : Event) (timestamp : String) : String :=
  let level := event.level.name.toList
  .ofList (timestamp.toList ++ ' ' :: List.replicate (5 - level.length) ' ' ++ level ++
    ' ' :: event.body)

/-- A line of JSON text. -/
def json (event : Event) (timestamp : String) : String :=
  let fields := ("message", Json.writeString event.message) ::
    event.fields.map fun (name, value) => (name, value.json)
  .ofList (Json.writeObject
    [("timestamp", Json.writeString timestamp), ("level", Json.writeString event.level.name),
     ("fields", Json.writeObject fields), ("target", Json.writeString event.source)])

end Event

end WorkerVitals
