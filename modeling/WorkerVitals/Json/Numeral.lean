import WorkerVitals.Json.Rejection
import WorkerVitals.Text.Blank
import WorkerVitals.Text.Numeral

/-! Numerals of JSON text and their values. Whole numbers that fit 64 bits are exact. Any other
number is a binary64 number got in one scaling: as many leading digits as fit a 64-bit word, then
a multiplication or division by a power of ten, the digits that do not fit being dropped. -/
namespace WorkerVitals.Json

/-- A numeral by its parts; an empty `fraction` stands for none, the exponent carries its sign. -/
structure Numeral where
  negative : Bool
  whole : List Char
  fraction : List Char
  exponent : Option (Bool × List Char)
  deriving DecidableEq, Repr

/-- A numeral with the text after it, or why there is none: `read` is the reason where its value
is wanted, `skip` where it is passed over. -/
inductive Numeral.Scan where
  | found (numeral : Numeral) (rest : List Char)
  | broken (read skip : Rejection)
  deriving DecidableEq, Repr

/-- The reason for a digit that is missing before `rest`: a numeral cut off by the end of the text
counts as ended only where its value is wanted. -/
def Numeral.Scan.digitMissing (rest : List Char) : Numeral.Scan :=
  .broken (if rest = [] then .ended else .malformed) .malformed

def takeDigits (text : List Char) : List Char := text.takeWhile Text.isDigit
def dropDigits (text : List Char) : List Char := text.dropWhile Text.isDigit

/-- Whether an exponent is negative, and the text after the sign it may begin with. -/
def exponentSign : List Char → Bool × List Char
  | '-' :: rest => (true, rest)
  | '+' :: rest => (false, rest)
  | rest => (false, rest)

/-- The exponent of a numeral, if an `e` of either case begins it. -/
def Numeral.scanExponent (numeral : Numeral) : List Char → Numeral.Scan
  | [] => .found numeral []
  | mark :: rest =>
    if mark = 'e' ∨ mark = 'E' then
      let (negative, text) := exponentSign rest
      if takeDigits text = [] then .digitMissing (dropDigits text)
      else .found { numeral with exponent := some (negative, takeDigits text) } (dropDigits text)
    else .found numeral (mark :: rest)

/-- The fraction of a numeral, if a point begins it, and then the exponent. -/
def Numeral.scanFraction (numeral : Numeral) : List Char → Numeral.Scan
  | '.' :: rest =>
    if takeDigits rest = [] then .digitMissing (dropDigits rest)
    else scanExponent { numeral with fraction := takeDigits rest } (dropDigits rest)
  | rest => scanExponent numeral rest

/-- The whole part of a numeral: one zero, or digits that do not begin with a zero. -/
def Numeral.scanWhole (negative : Bool) (text : List Char) : Numeral.Scan :=
  match takeDigits text with
  | [] => .digitMissing text
  | '0' :: _ :: _ => .broken .malformed .malformed
  | whole => scanFraction ⟨negative, whole, [], none⟩ (dropDigits text)

def Numeral.scan : List Char → Numeral.Scan
  | '-' :: rest => scanWhole true rest
  | text => scanWhole false text

theorem length_dropDigits_le (text : List Char) : (dropDigits text).length ≤ text.length :=
  Text.length_dropWhile_le Text.isDigit text

theorem length_dropDigits_lt {text : List Char} (some_digit : takeDigits text ≠ []) :
    (dropDigits text).length < text.length := by
  have parts := congrArg List.length
    (List.takeWhile_append_dropWhile (p := Text.isDigit) (l := text))
  have positive := List.length_pos_iff.2 some_digit
  simp only [List.length_append] at parts
  simp only [takeDigits] at positive
  simp only [dropDigits]
  omega

theorem length_exponentSign_le (text : List Char) : (exponentSign text).2.length ≤ text.length := by
  unfold exponentSign; split <;> simp

theorem Numeral.scanExponent_length {numeral found : Numeral} {text rest : List Char}
    (scanned : numeral.scanExponent text = .found found rest) : rest.length ≤ text.length := by
  cases text with
  | nil => simp only [scanExponent, Scan.found.injEq] at scanned; simp [← scanned.2]
  | cons mark tail =>
    simp only [scanExponent] at scanned
    split at scanned
    · split at scanned
      · simp [Scan.digitMissing] at scanned
      · simp only [Scan.found.injEq] at scanned
        rw [← scanned.2]
        have dropped := length_dropDigits_le (exponentSign tail).2
        have signed := length_exponentSign_le tail
        simp only [List.length_cons]; omega
    · simp only [Scan.found.injEq] at scanned; simp [← scanned.2]

theorem Numeral.scanFraction_length {numeral found : Numeral} {text rest : List Char}
    (scanned : numeral.scanFraction text = .found found rest) : rest.length ≤ text.length := by
  unfold scanFraction at scanned
  split at scanned
  · rename_i tail
    split at scanned
    · simp [Scan.digitMissing] at scanned
    · have shorter := scanExponent_length scanned
      have dropped := length_dropDigits_le tail
      simp only [List.length_cons]; omega
  · exact scanExponent_length scanned

theorem Numeral.scanWhole_length {negative : Bool} {found : Numeral} {text rest : List Char}
    (scanned : scanWhole negative text = .found found rest) : rest.length < text.length := by
  unfold scanWhole at scanned
  split at scanned
  · simp [Scan.digitMissing] at scanned
  · simp at scanned
  · rename_i some_digit _
    exact Nat.lt_of_le_of_lt (scanFraction_length scanned) (length_dropDigits_lt some_digit)

/-- A numeral takes at least one character. -/
theorem Numeral.scan_length {found : Numeral} {text rest : List Char}
    (scanned : Numeral.scan text = .found found rest) : rest.length < text.length := by
  unfold scan at scanned
  split at scanned
  · exact Nat.lt_succ_of_lt (scanWhole_length scanned)
  · exact scanWhole_length scanned

/-- The value of a numeral. -/
inductive Number where
  | natural (n : UInt64)
  | negative (n : Int64)
  | float (x : Float)
  deriving DecidableEq, Repr

/-- Appends digits to a significand while it stays a 64-bit word; also says how many there were. -/
def absorb (significand taken : Nat) : List Char → Nat × Nat
  | [] => (significand, taken)
  | digit :: rest =>
    let next := 10 * significand + Text.digitValue digit
    if next < UInt64.size then absorb next (taken + 1) rest else (significand, taken)

def powerOfTen (exponent : Nat) : Float := Float.ofScientific 1 false exponent

/-- `significand * 10 ^ exponent` by one multiplication or division; below `10 ^ -308` the division
is made in steps. Too large a result is refused. -/
def scale (x : Float) (exponent : Int) : Except Rejection Float :=
  if exponent.natAbs ≤ 308 then
    if 0 ≤ exponent then
      let y := x * powerOfTen exponent.natAbs
      if y.isInf then .error .malformed else .ok y
    else .ok (x / powerOfTen exponent.natAbs)
  else if x == 0 then .ok x
  else if 0 ≤ exponent then .error .malformed
  else scale (x / powerOfTen 308) (exponent + 308)
termination_by exponent.natAbs
decreasing_by omega

def applySign (negative : Bool) (x : Float) : Float := if negative then -x else x

/-- An exponent of more than 31 bits makes a zero, or a number that is refused. -/
def Numeral.float (numeral : Numeral) (significand : Nat) (exponent : Int) :
    Except Rejection Float :=
  let mantissa := significand.toUInt64.toFloat
  match numeral.exponent with
  | none => (scale mantissa exponent).map (applySign numeral.negative)
  | some (negative, digits) =>
    let written := Text.digitsValue digits
    if written < Nat.pow 2 31 then
      (scale mantissa (if negative then exponent - written else exponent + written)).map
        (applySign numeral.negative)
    else if significand ≠ 0 ∧ negative = false then .error .malformed
    else .ok (applySign numeral.negative 0)

/-- A whole number that fits is exact, though a zero with a minus sign is no whole number. -/
def Numeral.value (numeral : Numeral) : Except Rejection Number :=
  let (significand, taken) := absorb 0 0 numeral.whole
  if taken = numeral.whole.length ∧ numeral.fraction = [] ∧ numeral.exponent = none then
    if numeral.negative then
      if 1 ≤ significand ∧ significand ≤ Nat.pow 2 63 then .ok (.negative (.ofInt (-significand)))
      else .ok (.float (-significand.toUInt64.toFloat))
    else .ok (.natural significand.toUInt64)
  else
    let dropped : Int := numeral.whole.length - taken
    let (significand, places) := absorb significand 0 numeral.fraction
    (numeral.float significand (dropped - places)).map .float

end WorkerVitals.Json
