import WorkerVitals.Text.Numeral

/-! Binary64 numbers as text a person types: a sign, then `inf`, `infinity` or `nan` in any case, or
digits with a point before, between or after them and perhaps an exponent. The value is the nearest
one; too large a number is infinite. -/
namespace WorkerVitals.Decimal

def lowerAscii (c : Char) : Char := if 'A' ≤ c ∧ c ≤ 'Z' then Char.ofNat (c.toNat + 32) else c

/-- The words for what is not finite. -/
def word? (text : List Char) : Option Float :=
  let lower := String.ofList (text.map lowerAscii)
  if lower = "inf" ∨ lower = "infinity" then some (1 / 0)
  else if lower = "nan" then some (0 / 0)
  else none

/-- `significand * 10 ^ exponent`, rounded to nearest. Far outside of the range of the format the
result is known without the power of ten. -/
def nearest (significand : Nat) (exponent : Int) : Float :=
  let leading := exponent + (Text.decimal significand).length
  if significand = 0 ∨ leading < -400 then 0
  else if 400 < leading then 1 / 0
  else Float.ofScientific significand (exponent < 0) exponent.natAbs

/-- The exponent after a number: none, or an `e` of either case, a sign or none, and digits. -/
def exponent? : List Char → Option Int
  | [] => some 0
  | mark :: rest => if mark = 'e' ∨ mark = 'E' then Text.integer? rest else none

/-- Digits, a point or none, digits, an exponent or none; one digit at least before the exponent. -/
def unsigned? (text : List Char) : Option Float :=
  let whole := text.takeWhile Text.isDigit
  let (fraction, rest) := match text.dropWhile Text.isDigit with
    | '.' :: rest => (rest.takeWhile Text.isDigit, rest.dropWhile Text.isDigit)
    | rest => ([], rest)
  if whole ++ fraction = [] then none
  else do
    let exponent ← exponent? rest
    return nearest (Text.digitsValue (whole ++ fraction)) (exponent - fraction.length)

def magnitude? (text : List Char) : Option Float := word? text <|> unsigned? text

/-- The number that a text stands for. -/
def float? : List Char → Option Float
  | '-' :: rest => (magnitude? rest).map (- ·)
  | text => magnitude? (Text.dropPlus text)

end WorkerVitals.Decimal
