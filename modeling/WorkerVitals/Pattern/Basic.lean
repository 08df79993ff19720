import WorkerVitals.Text.Blank

namespace WorkerVitals.Pattern

/-- What flags switch on and off: whether case is disregarded, whether a pattern is about
characters or about bytes, and whether blanks and comments in it are left out. -/
structure Modes where
  foldsCase : Bool := false
  unicode : Bool := true
  spaced : Bool := false
  deriving DecidableEq, Repr

namespace Modes

/-- Case is known for bytes only, so it cannot be disregarded in characters. -/
def lacksCases (modes : Modes) : Bool := modes.foldsCase && modes.unicode

/-- A text without the blanks in front, and without comments, which end at a line feed. -/
def dropComments (inComment : Bool) : List Char → List Char
  | [] => []
  | c :: rest =>
    if inComment then dropComments (c != '\n') rest
    else if Text.isBlank c then dropComments false rest
    else if c = '#' then dropComments true rest
    else c :: rest

/-- What is left to be read of a text. -/
def skip (modes : Modes) (text : List Char) : List Char :=
  if modes.spaced then dropComments false text else text

/-- The character that is looked at behind a hyphen. Of a comment this leaves out the sign only,
and so it may be one inside the comment. -/
def peek (modes : Modes) (rest : List Char) : Option Char :=
  if modes.spaced then
    match rest.dropWhile Text.isBlank with
    | '#' :: comment => (comment.dropWhile Text.isBlank).head?
    | shown => shown.head?
  else rest.head?

/-- The flags of a group: letters and one minus sign, none twice and the sign not last. -/
def areFlags (flags : List Char) : Bool :=
  flags.all "imsUuRx-".toList.contains && flags.Nodup && flags.getLast? != some '-'

/-- A mode after flags: on if its letter is in front of the minus sign, off if it is behind. -/
def switch (flags : List Char) (letter : Char) (mode : Bool) : Bool :=
  if letter ∈ flags then letter ∈ flags.takeWhile (· != '-') else mode

def change (modes : Modes) (flags : List Char) : Modes where
  foldsCase := switch flags 'i' modes.foldsCase
  unicode := switch flags 'u' modes.unicode
  spaced := switch flags 'x' modes.spaced

end Modes

/-- The depth of parts side by side: one part alone is not nested any deeper. -/
def gather : List Nat → Nat
  | [] => 0
  | [depth] => depth
  | depths => depths.foldl max 0 + 1

/-- The greatest depth of a pattern. -/
def depthLimit : Nat := 250

end WorkerVitals.Pattern
