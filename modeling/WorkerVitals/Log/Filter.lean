import WorkerVitals.Log.Rule.Read

/-! Which events are shown. A filter is a list of rules; of the rules that cover an event one
overrides the others, and its limit decides. -/
namespace WorkerVitals.Log

abbrev Filter := List Rule

namespace Filter

/-- The rule that overrides all others that cover an event. -/
def rule? (filter : Filter) (event : Event) : Option Rule :=
  (filter.filter (·.covers event)).foldl (fun best rule =>
    if best.all rule.overrides then some rule else best) none

/-- An event that no rule covers is not shown. -/
def admits (filter : Filter) (event : Event) : Bool :=
  (filter.rule? event).any (·.limit.admits event.level)

/-- Rules are separated by commas; where there are none only errors are shown. -/
def read (text : List Char) : Except Failure Filter := do
  match ← ((Text.parts ',' text).filter (· ≠ [])).mapM Rule.read with
  | [] => return [{ limit := some .error }]
  | rules => return rules

/-- All but details is shown. -/
def standard : Filter := [{ limit := some .info }]

/-- The variable that holds the filter. -/
def variableName : String := "RUST_LOG"

/-- The filter of an environment, the standard one if there is none that can be read. With a cut
inside a character there is none, and nothing can be started. -/
def ofEnvironment (environment : List (String × String)) : Option Filter :=
  match environment.lookup variableName with
  | none => some standard
  | some text =>
    match read text.toList with
    | .ok filter => some filter
    | .error .unreadable => some standard
    | .error .splitsCharacter => none

end Filter

end WorkerVitals.Log
