import WorkerVitals.Decimal.Shortest
import WorkerVitals.Text.Numeral

namespace WorkerVitals.Decimal

/-- The decisions of one output format. `positional e` says whether a number whose first digit
stands for `10 ^ e` is written without an exponent. -/
structure Layout where
  positional : Int → Bool
  wholeFraction : Bool
  plusSign : Bool
  tie : Tie

/-- The digits of a decimal without an exponent. -/
def Layout.plain (layout : Layout) (digits : List Char) (exponent : Int) : List Char :=
  if 0 ≤ exponent then
    digits ++ List.replicate exponent.toNat '0' ++ if layout.wholeFraction then ['.', '0'] else []
  else
    let places := exponent.natAbs
    if places < digits.length then
      digits.take (digits.length - places) ++ '.' :: digits.drop (digits.length - places)
    else '0' :: '.' :: List.replicate (places - digits.length) '0' ++ digits

/-- One digit, the others after a point, and the exponent of the first. -/
def Layout.scientific (layout : Layout) (digits : List Char) (leading : Int) : List Char :=
  let fraction := if digits.length ≤ 1 then [] else '.' :: digits.drop 1
  let sign := if leading < 0 then ['-'] else if layout.plusSign then ['+'] else []
  digits.take 1 ++ fraction ++ 'e' :: sign ++ Text.decimal leading.natAbs

def Layout.digits (layout : Layout) (d : Digits) : List Char :=
  let digits := Text.decimal d.coefficient
  let leading := d.exponent + digits.length - 1
  if layout.positional leading then layout.plain digits d.exponent
  else layout.scientific digits leading

/-- A number in full: the sign is written for negative zero too. -/
def Layout.write (layout : Layout) : Value → List Char
  | .nan => ['N', 'a', 'N']
  | .infinite negative => (if negative then ['-'] else []) ++ ['i', 'n', 'f']
  | .finite negative magnitude =>
    (if negative then ['-'] else []) ++ layout.digits (magnitude.shortest layout.tie)

/-- Messages never use an exponent, leave a whole number whole, and let ties go up. -/
def Layout.message : Layout := ⟨fun _ => true, false, false, .above⟩

/-- JSON text uses an exponent below `10 ^ -5` and from `10 ^ 16` on, with its sign, keeps
a fraction on whole numbers, and lets ties go to the even decimal. -/
def Layout.json : Layout := ⟨fun e => -5 ≤ e && e ≤ 15, true, true, .even⟩

/-- Log lines use an exponent below `10 ^ -4` and from `10 ^ 16` on, signed only when negative,
keep a fraction on whole numbers, and let ties go up. -/
def Layout.log : Layout := ⟨fun e => -4 ≤ e && e ≤ 15, true, false, .above⟩

/-- The text of a number in an output format. -/
def text (layout : Layout) (x : Float) : String := .ofList (layout.write (.ofFloat x))

end WorkerVitals.Decimal
