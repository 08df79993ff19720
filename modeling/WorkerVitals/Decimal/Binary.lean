namespace WorkerVitals.Decimal

/-- A magnitude `significand * 2 ^ exponent`. It is `narrow` when the gap to the next smaller
number of the format is half the gap to the next larger one. -/
structure Magnitude where
  significand : Nat
  exponent : Int
  narrow : Bool
  deriving DecidableEq, Repr

/-- What a binary64 number stands for. -/
inductive Value where
  | nan
  | infinite (negative : Bool)
  | finite (negative : Bool) (magnitude : Magnitude)
  deriving DecidableEq, Repr

/-- Reads the sign, the eleven exponent bits and the 52 fraction bits. A number with a non-zero
exponent field has a leading one that is not stored. -/
def Value.ofFloat (x : Float) : Value :=
  let bits : Nat := x.toBits.toNat
  let negative := decide (Nat.pow 2 63 ≤ bits)
  let field : Nat := bits / Nat.pow 2 52 % Nat.pow 2 11
  let fraction : Nat := bits % Nat.pow 2 52
  if field = Nat.pow 2 11 - 1 then
    if fraction = 0 then .infinite negative else .nan
  else if field = 0 then
    .finite negative ⟨fraction, -1074, false⟩
  else
    .finite negative ⟨Nat.pow 2 52 + fraction, (field : Int) - 1075, fraction = 0 && 1 < field⟩

end WorkerVitals.Decimal
