import WorkerVitals.Pattern.Basic
import WorkerVitals.Text.Numeral

namespace WorkerVitals.Pattern

/-- A character, or the byte with its number; a kind of characters such as the digits, or all
others; an end of the text; the bound of a word. -/
inductive Sign where
  | char (c : Char)
  | byte (c : Char)
  | kind (others : Bool)
  | edge
  | wordBound
  deriving DecidableEq, Repr

namespace Sign

/-- The character that one or two signs of a range stand for. -/
def char? : Sign → Option Char
  | .char c | .byte c => some c
  | _ => none

/-- So many characters of a text, those that are not read left out. -/
def take? (modes : Modes) : (count : Nat) → List Char → Option (List Char × List Char)
  | 0, text => some ([], text)
  | count + 1, text =>
    match modes.skip text with
    | [] => none
    | c :: rest => (take? modes count rest).map fun (taken, after) => (c :: taken, after)

/-- The character with a hexadecimal number of so many digits. -/
def hexChar? (modes : Modes) (count : Nat) (text : List Char) : Option (Char × List Char) := do
  let (digits, rest) ← take? modes count text
  let code ← Text.hexNumber? digits
  if code.isValidChar then some (.ofNat code, rest) else none

/-- What a single character behind a backslash stands for: itself if it is no letter or digit. -/
def ofEscape? : Char → Option Sign
  | 'd' | 's' | 'w' => some (.kind false)
  | 'D' | 'S' | 'W' => some (.kind true)
  | 'A' | 'z' => some .edge
  | 'b' | 'B' | '<' | '>' => some .wordBound
  | 'a' => some (.char '\x07')
  | 'f' => some (.char '\x0c')
  | 'n' => some (.char '\n')
  | 'r' => some (.char '\r')
  | 't' => some (.char '\t')
  | 'v' => some (.char '\x0b')
  | c => if c.toNat < 0x80 ∧ !c.isAlphanum then some (.char c) else none

/-- The first sign of a text. -/
def read? (modes : Modes) : List Char → Option (Sign × List Char)
  | [] | ['\\'] => none
  | '\\' :: 'x' :: rest => (hexChar? modes 2 rest).map fun (c, after) => (.byte c, after)
  | '\\' :: 'u' :: rest => (hexChar? modes 4 rest).map fun (c, after) => (.char c, after)
  | '\\' :: 'U' :: rest => (hexChar? modes 8 rest).map fun (c, after) => (.char c, after)
  | '\\' :: c :: rest => (ofEscape? c).map fun sign => (sign, rest)
  | c :: rest => some (.char c, rest)

/-- Whether a sign may stand by itself. Kinds of characters and bounds of words are known for bytes
only; there all other bytes are too many, since some of them are parts of longer characters. -/
def standsAlone (modes : Modes) : Sign → Bool
  | .char _ => !modes.lacksCases
  | .byte c => if modes.unicode then !modes.foldsCase else c.toNat < 0x80
  | .kind others => !modes.unicode && !others
  | .edge => true
  | .wordBound => !modes.unicode

/-- Whether a sign may stand in a set. Bytes that are parts of longer characters are in no set. -/
def standsInSet (modes : Modes) : Sign → Bool
  | .char c | .byte c => if modes.unicode then !modes.foldsCase else c.toNat < 0x80
  | .kind others => !modes.unicode && !others
  | .edge | .wordBound => false

end Sign

end WorkerVitals.Pattern
