import WorkerVitals.Decimal.Read
import WorkerVitals.Log.Rule.Basic
import WorkerVitals.Pattern.Read
import WorkerVitals.Text.Alphanumeric
import WorkerVitals.Text.Blank
import WorkerVitals.Text.Cut
import WorkerVitals.Text.Numeral

/-! The text of a rule: a limit, or a target, perhaps with a scope between square brackets, and a
limit after an equals sign. The parts of a rule are found in its text without the blanks around it,
but they are taken from the text with them, at the same byte places. -/
namespace WorkerVitals.Log

/-- Why a rule is not used: it cannot be read, or a cut in it falls inside a character. -/
inductive Failure where
  | unreadable
  | splitsCharacter
  deriving DecidableEq, Repr

/-- The part of a text between two byte places, or that there is none. -/
def slice (text : List Char) (start stop : Nat) : Except Failure (List Char) :=
  match Text.slice? text start stop with
  | some part => .ok part
  | none => .error .splitsCharacter

/-- A mark found in a text, with its byte place and what comes after it. -/
structure Mark where
  sign : Char
  place : Nat
  after : List Char

/-- The first of some signs in what is left of a text from a byte place on. -/
def Mark.find? (signs : List Char) (start : Nat) : (rest : List Char) → Option Mark
  | [] => none
  | c :: rest => if c ∈ signs then some ⟨c, start, rest⟩ else find? signs (start + c.utf8Size) rest

/-- A limit is a name in any case, or a number from zero, which shows nothing, to five. -/
def Limit.read? (text : List Char) : Option Limit :=
  match Text.natural? (Text.dropPlus text) with
  | some 0 => some none
  | some 1 => some (some .error)
  | some 2 => some (some .warn)
  | some 3 => some (some .info)
  | some 4 => some (some .debug)
  | some 5 => some (some .trace)
  | some _ => none
  | none =>
    match String.ofList (text.map Char.toLower) with
    | "off" => some none
    | "error" => some (some .error)
    | "warn" => some (some .warn)
    | "info" => some (some .info)
    | "debug" => some (some .debug)
    | "trace" => some (some .trace)
    | _ => none

/-- The limit after an equals sign; all is shown if nothing is there. -/
def Limit.read (text : List Char) (start : Nat) : Except Failure Limit := do
  let word ← slice text start (Text.byteLength text)
  if word = [] then return some .trace
  match Limit.read? word with
  | some limit => return limit
  | none => throw .unreadable

/-- A name, and after an equals sign a value, which is a number or a pattern. -/
def FieldTest.read (text : List Char) : Except Failure FieldTest :=
  match Text.parts '=' text with
  | [[]] | [] => .error .unreadable
  | [name] => .ok { name }
  | name :: value :: _ =>
    if (Decimal.float? value).isSome || Pattern.isReadable value then .ok { name, value }
    else .error .unreadable

/-- A scope, which begins at a byte place behind an opening bracket: a span, or a field between
braces with or without a span in front, and the closing bracket. The end of the scope is given with
its place. -/
def Scope.read (text : List Char) (start : Nat) (rest : List Char) :
    Except Failure (Scope × Mark) :=
  match Mark.find? [']', '\x7b'] start rest with
  | none => .error .unreadable
  | some first => do
    let span ← slice text start first.place
    if first.sign = ']' then return ({ span }, first)
    match Mark.find? ['\x7d'] (first.place + 1) first.after with
    | none => throw .unreadable
    | some last =>
      let field ← FieldTest.read (← slice text (first.place + 1) last.place)
      match last.after with
      | ']' :: after =>
        return ({ span := if span = [] then none else span, field }, ⟨']', last.place + 1, after⟩)
      | _ => throw .unreadable

/-- A character that a rule may begin with. -/
def startsRule (c : Char) : Bool :=
  Text.isAlphanumeric c || c = '_' || c = '-' || c = ':' || c = '['

/-- A word alone is a limit for every source, or else a target of which all is shown. -/
def Rule.ofWord (word : List Char) : Rule :=
  match Limit.read? word with
  | some limit => { limit }
  | none => { target := word, limit := some .trace }

/-- A rule that begins with a target, which may be empty only in front of a scope. -/
def Rule.read (text : List Char) : Except Failure Rule :=
  let known := Text.trim text
  if known.head?.any startsRule then
    match Mark.find? ['=', '['] 0 known with
    | none => .ok (.ofWord text)
    | some first => do
      let target ← slice text 0 first.place
      if first.sign = '=' then return { target, limit := ← Limit.read text (first.place + 1) }
      let (scope, last) ← Scope.read text (first.place + 1) first.after
      match last.after with
      | [] => return { target, scope, limit := some .trace }
      | '=' :: _ => return { target, scope, limit := ← Limit.read text (last.place + 2) }
      | _ => throw .unreadable
  else .error .unreadable

end WorkerVitals.Log
