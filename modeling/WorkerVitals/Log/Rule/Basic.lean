import WorkerVitals.Event

namespace WorkerVitals

/-- The place of a level, from the loudest on. -/
def Level.rank : Level → Nat
  | .error => 1
  | .warn => 2
  | .info => 3
  | .debug => 4
  | .trace => 5

/-- Whether an event has a field of this name; each has a message. -/
def Event.hasField (event : Event) (name : List Char) : Bool :=
  name = "message".toList || event.fields.any fun field => field.1.toList = name

namespace Log

/-- The quietest level that is still shown; nothing is shown when there is none. -/
abbrev Limit := Option Level

def Limit.admits (limit : Limit) (level : Level) : Bool :=
  limit.any fun quietest => level.rank ≤ quietest.rank

/-- A field that is asked for, perhaps with a value. -/
structure FieldTest where
  name : List Char
  value : Option (List Char) := none
  deriving DecidableEq, Repr

/-- Values are asked for in spans only, so an event itself never passes a test for one. -/
def FieldTest.passes (test : FieldTest) (event : Event) : Bool :=
  test.value = none && event.hasField test.name

/-- Where a rule holds besides at its target: in a span, and with a field. -/
structure Scope where
  span : Option (List Char) := none
  field : Option FieldTest := none
  deriving DecidableEq, Repr

/-- No event here is logged inside a span. -/
def Scope.covers (scope : Scope) (event : Event) : Bool :=
  scope.span = none && scope.field.all (·.passes event)

structure Rule where
  target : List Char := []
  scope : Scope := {}
  limit : Limit
  deriving DecidableEq, Repr

namespace Rule

/-- A target covers the sources that begin with it. -/
def covers (rule : Rule) (event : Event) : Bool :=
  rule.target.isPrefixOf event.source.toList && rule.scope.covers event

/-- The name of the field that a rule asks for, empty if it asks for none. -/
def fieldName (rule : Rule) : List Char := (rule.scope.field.map FieldTest.name).getD []

/-- A longer target overrides a shorter one; with the same target a field overrides none, a later
name an earlier one, and with the same name too the later rule the earlier one. -/
def overrides (later earlier : Rule) : Bool :=
  earlier.target.length < later.target.length ||
    earlier.target.length = later.target.length && !later.fieldName.lex earlier.fieldName

end Rule

end Log

end WorkerVitals
