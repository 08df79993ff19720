import WorkerVitals.Json.Numeral
import WorkerVitals.Text.Cut

/-! JSON text as tokens. White space between tokens is gone here. A token that is cut off or
breaks the grammar ends the list and says why it is not accepted. -/
namespace WorkerVitals.Json

inductive Token where
  | openObject
  | closeObject
  | openList
  | closeList
  | comma
  | colon
  | null
  | bool (b : Bool)
  | number (numeral : Numeral)
  /-- A string between quotes; escapes in it may still not stand for characters. -/
  | text (content : Except Rejection String)
  | brokenText (read skip : Rejection)
  | brokenScalar (read skip : Rejection)
  /-- A character that begins no token. -/
  | stray
  deriving Repr

/-- A character of a string, or the sixteen bits of a `\u` escape. -/
inductive Piece where
  | char (c : Char)
  | unit (code : Nat)
  deriving DecidableEq, Repr

/-- How the pieces of a string end: at its closing quote, or for a reason before it. -/
inductive Ending where
  | closed (rest : List Char)
  | broken (reason : Rejection)
  deriving DecidableEq, Repr

/-- The character that a letter after a backslash stands for. -/
def unescape? : Char → Option Char
  | '"' => some '"'
  | '\\' => some '\\'
  | '/' => some '/'
  | 'b' => some '\x08'
  | 'f' => some '\x0c'
  | 'n' => some '\n'
  | 'r' => some '\r'
  | 't' => some '\t'
  | _ => none

/-- Fewer than four bytes after `\u` are too few for the text; four that are no digits are wrong. -/
def unitMissing (rest : List Char) : Rejection :=
  if Text.byteLength rest < 4 then .ended else .malformed

/-- The pieces of a string after its opening quote. -/
def pieces : List Char → List Piece × Ending
  | [] => ([], .broken .ended)
  | '"' :: rest => ([], .closed rest)
  | ['\\'] => ([], .broken .ended)
  | '\\' :: 'u' :: a :: b :: c :: d :: rest =>
    match Text.hexNumber? [a, b, c, d] with
    | some code => ((.unit code) :: (pieces rest).1, (pieces rest).2)
    | none => ([], .broken .malformed)
  | '\\' :: 'u' :: rest => ([], .broken (unitMissing rest))
  | '\\' :: letter :: rest =>
    match unescape? letter with
    | some c => ((.char c) :: (pieces rest).1, (pieces rest).2)
    | none => ([], .broken .malformed)
  | c :: rest =>
    if c.toNat < 0x20 then ([], .broken .malformed)
    else ((.char c) :: (pieces rest).1, (pieces rest).2)

def isHigh (code : Nat) : Bool := 0xD800 ≤ code && code ≤ 0xDBFF
def isLow (code : Nat) : Bool := 0xDC00 ≤ code && code ≤ 0xDFFF

/-- The characters of a string. A high half must be followed by a low half, the two making one
character, and no low half stands alone; `atEnd` is the reason for a high half with nothing after
it. -/
def characters (atEnd : Rejection) : List Piece → Except Rejection (List Char)
  | [] => .ok []
  | .char c :: rest => (characters atEnd rest).map (c :: ·)
  | .unit code :: rest =>
    if isLow code then .error .malformed
    else if isHigh code then
      match rest with
      | [] => .error atEnd
      | .char _ :: _ => .error .malformed
      | .unit low :: rest =>
        if isLow low then
          (characters atEnd rest).map
            (Char.ofNat (0x10000 + (code - 0xD800) * 0x400 + (low - 0xDC00)) :: ·)
        else .error .malformed
    else (characters atEnd rest).map (Char.ofNat code :: ·)

/-- The token for the pieces of a string. Where its content is wanted, a half that stands alone
comes before the reason why the string breaks off. -/
def textToken : List Piece → Ending → Token
  | content, .closed _ => .text ((characters .malformed content).map String.ofList)
  | content, .broken reason =>
    match characters reason content with
    | .ok _ => .brokenText reason reason
    | .error first => .brokenText first reason

theorem pieces_length {text rest : List Char} (closed : (pieces text).2 = .closed rest) :
    rest.length < text.length := by
  fun_induction pieces text <;> simp_all <;> omega

/-- What is left after a word that must come next, or why it does not. -/
def dropWord : (word text : List Char) → Except Rejection (List Char)
  | [], text => .ok text
  | _ :: _, [] => .error .ended
  | expected :: word, c :: rest =>
    if c = expected then dropWord word rest else .error .malformed

theorem dropWord_length {word text rest : List Char} (dropped : dropWord word text = .ok rest) :
    rest.length ≤ text.length := by
  induction word generalizing text with
  | nil => simp only [dropWord, Except.ok.injEq] at dropped; simp [dropped]
  | cons expected word ih =>
    cases text with
    | nil => simp [dropWord] at dropped
    | cons c tail =>
      simp only [dropWord] at dropped
      split at dropped
      · exact Nat.le_succ_of_le (ih dropped)
      · simp at dropped

/-- The token that a single character makes. -/
def punctuation? : Char → Option Token
  | '\x7b' => some .openObject
  | '\x7d' => some .closeObject
  | '[' => some .openList
  | ']' => some .closeList
  | ',' => some .comma
  | ':' => some .colon
  | _ => none

/-- A word of the grammar by its first character: the rest of the word, and its token. -/
def keyword? : Char → Option (List Char × Token)
  | 'n' => some (['u', 'l', 'l'], .null)
  | 't' => some (['r', 'u', 'e'], .bool true)
  | 'f' => some (['a', 'l', 's', 'e'], .bool false)
  | _ => none

def isSpace (c : Char) : Bool := c = ' ' || c = '\t' || c = '\n' || c = '\r'

/-- The tokens of a text. -/
def tokens : List Char → List Token
  | [] => []
  | c :: rest =>
    if isSpace c then tokens rest
    else if c = '"' then
      match _ : (pieces rest).2 with
      | .closed after => textToken (pieces rest).1 (.closed after) :: tokens after
      | .broken reason => [textToken (pieces rest).1 (.broken reason)]
    else if c = '-' ∨ Text.isDigit c then
      match _ : Numeral.scan (c :: rest) with
      | .found numeral after => .number numeral :: tokens after
      | .broken read skip => [.brokenScalar read skip]
    else
      match punctuation? c, keyword? c with
      | some token, _ => token :: tokens rest
      | none, some (word, token) =>
        match _ : dropWord word rest with
        | .ok after => token :: tokens after
        | .error reason => [.brokenScalar reason reason]
      | none, none => [.stray]
termination_by text => text.length
decreasing_by
  · simp
  · rename_i closed
    exact Nat.lt_succ_of_lt (pieces_length closed)
  · rename_i scanned
    exact Numeral.scan_length scanned
  · simp
  · rename_i dropped
    exact Nat.lt_succ_of_le (dropWord_length dropped)

end WorkerVitals.Json
