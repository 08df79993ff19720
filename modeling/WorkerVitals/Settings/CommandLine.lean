import WorkerVitals.Settings.Options

/-! Settings from the arguments of a command line and from the environment. Arguments are read
from left to right. A value that is an argument of its own is looked at only when the next known
option, or the end, is reached; an unknown argument before that comes first. -/
namespace WorkerVitals.Settings

/-- What an argument is, before its value is looked at. -/
inductive Argument where
  /-- Two dashes and a name, with the text after an equals sign if there is one. -/
  | long (name : String) (value : Option String)
  /-- A dash and a letter, and perhaps more. -/
  | short (letter : Char)
  /-- Two dashes alone: nothing after them is an option. -/
  | separator
  | word (text : String)
  deriving DecidableEq, Repr

/-- The name of a long option and what stands behind the first equals sign. -/
def Argument.ofLong (characters : List Char) : Argument :=
  let name := String.ofList (characters.takeWhile (· != '='))
  match characters.dropWhile (· != '=') with
  | [] => .long name none
  | _ :: value => .long name (some (.ofList value))

def Argument.of (text : String) : Argument :=
  match text.toList with
  | ['-', '-'] => .separator
  | '-' :: '-' :: rest => .ofLong rest
  | '-' :: letter :: _ => .short letter
  | _ => .word text

/-- What a name on the command line stands for. -/
inductive Meaning where
  | option (opt : Opt)
  | help
  | version
  deriving DecidableEq, Repr

def Meaning.ofName? (name : String) : Option Meaning :=
  if name = "help" then some .help
  else if name = "version" then some .version
  else (Opt.ofName? name).map .option

def Meaning.ofLetter? : Char → Option Meaning
  | 'h' => some .help
  | 'V' => some .version
  | _ => none

/-- An option met whose value, if it was met too, is still to be looked at. -/
structure Pending where
  opt : Opt
  value : Option String
  deriving DecidableEq, Repr

structure Scan where
  given : Given := {}
  pending : Option Pending := none
  deriving DecidableEq

namespace Scan

/-- Keeps a value; no option is given twice. -/
def keep (given : Given) (opt : Opt) (text : String) : Except Usage Given :=
  if given.has opt then .error .argumentConflict else given.supply opt text

/-- Looks at the value of the pending option; one that is missing comes before a second one. -/
def settle (scan : Scan) : Except Usage Given :=
  match scan.pending with
  | none => .ok scan.given
  | some ⟨_, none⟩ => .error .invalidValue
  | some ⟨opt, some text⟩ => keep scan.given opt text

/-- A known option, with the value attached to it if there is one. -/
def meet (scan : Scan) (meaning : Meaning) (value : Option String) : Except Usage Scan :=
  match meaning, value with
  | .option opt, some text =>
    if opt.takesValue then do return { given := ← keep (← scan.settle) opt text }
    else .error .tooManyValues
  | .option opt, none => do
    let given ← scan.settle
    if opt.takesValue then return { given, pending := some ⟨opt, none⟩ }
    else return { given := ← keep given opt "true" }
  | .help, none => do let _ ← scan.settle; .error .displayHelp
  | .version, none => do let _ ← scan.settle; .error .displayVersion
  | .help, some _ | .version, some _ => .error .tooManyValues

/-- A word is the value of an option that waits for one; nothing else takes words. -/
def word (scan : Scan) (text : String) : Except Usage Scan :=
  match scan.pending with
  | some ⟨opt, none⟩ => .ok { scan with pending := some ⟨opt, some text⟩ }
  | _ => .error .unknownArgument

def arguments (scan : Scan) : List String → Except Usage Given
  | [] => scan.settle
  | text :: rest =>
    match Argument.of text with
    | .separator => if rest = [] then scan.settle else .error .unknownArgument
    | .long name value =>
      match Meaning.ofName? name with
      | some meaning => do (← scan.meet meaning value).arguments rest
      | none => .error .unknownArgument
    | .short letter =>
      match Meaning.ofLetter? letter with
      | some meaning => do (← scan.meet meaning none).arguments rest
      | none => .error .unknownArgument
    | .word text => do (← scan.word text).arguments rest

end Scan

/-- The values of variables; the first of a name counts. -/
abbrev Environment := List (String × String)

/-- Adds the values of variables for options that were not given. -/
def Given.complete (environment : Environment) (given : Given) : List Opt → Except Usage Given
  | [] => .ok given
  | opt :: rest => do
    let next ←
      if given.has opt then pure given
      else match environment.lookup opt.variableName with
        | some text => given.supply opt text
        | none => pure given
    next.complete environment rest

/-- The settings that arguments and variables give; arguments win. -/
def ofArguments (arguments : List String) (environment : Environment) : Except Usage Settings := do
  let given ← ({} : Scan).arguments arguments
  return (← given.complete environment Opt.all).settings

end WorkerVitals.Settings
