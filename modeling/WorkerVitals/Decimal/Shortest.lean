import WorkerVitals.Decimal.Binary

/-! The shortest decimal for a binary64 number: of all decimals that read back as the number,
those on the coarsest grid of a power of ten, and of these the nearest one. Two may be equally near;
then the format decides. -/
namespace WorkerVitals.Decimal

/-- The decimal `coefficient * 10 ^ exponent`. -/
structure Digits where
  coefficient : Nat
  exponent : Int
  deriving DecidableEq, Repr

/-- The same value with no zero at the end of the coefficient. -/
def Digits.normalize (digits : Digits) : Digits :=
  if digits.coefficient = 0 then ⟨0, 0⟩
  else if digits.coefficient % 10 = 0 then
    normalize ⟨digits.coefficient / 10, digits.exponent + 1⟩
  else digits
termination_by digits.coefficient
decreasing_by omega

/-- The numbers that round to one magnitude: from `low` to `high`, around `middle`, all over
`unit`. The ends belong to it when the magnitude's significand is even. -/
structure Basin where
  low : Nat
  middle : Nat
  high : Nat
  unit : Nat
  closed : Bool
  deriving DecidableEq, Repr

/-- The interval around a magnitude, in quarters of its last place. -/
def Basin.ofMagnitude (m : Magnitude) : Basin :=
  let scale := Nat.pow 2 (m.exponent - 2).toNat
  { low := (4 * m.significand - if m.narrow then 1 else 2) * scale
    middle := 4 * m.significand * scale
    high := (4 * m.significand + 2) * scale
    unit := Nat.pow 2 (2 - m.exponent).toNat
    closed := m.significand % 2 = 0 }

/-- The interval measured in steps of `10 ^ grid`. -/
def Basin.onGrid (b : Basin) (grid : Int) : Basin :=
  let stretch := Nat.pow 10 (-grid).toNat
  { b with
    low := b.low * stretch
    middle := b.middle * stretch
    high := b.high * stretch
    unit := b.unit * Nat.pow 10 grid.toNat }

/-- Whether a number of whole units rounds to the magnitude. -/
def Basin.holds (b : Basin) (units : Nat) : Bool :=
  if b.closed then b.low ≤ units * b.unit && units * b.unit ≤ b.high
  else b.low < units * b.unit && units * b.unit < b.high

/-- Which of two equally near decimals is taken. -/
inductive Tie where
  | even
  | above
  deriving DecidableEq, Repr

def Tie.choose (tie : Tie) (below : Nat) : Nat :=
  match tie with
  | .even => if below % 2 = 0 then below else below + 1
  | .above => below + 1

/-- The neighbour of the middle on the grid that lies in the interval; of two the nearer. -/
def Basin.nearest? (b : Basin) (tie : Tie) : Option Nat :=
  let below := b.middle / b.unit
  let above := below + 1
  let gapBelow := b.middle - below * b.unit
  let gapAbove := above * b.unit - b.middle
  match b.holds below, b.holds above with
  | false, false => none
  | true, false => some below
  | false, true => some above
  | true, true =>
    if gapBelow < gapAbove then some below
    else if gapAbove < gapBelow then some above
    else some (tie.choose below)

/-- Tries grids of ever smaller steps; the first with a point in the interval wins. -/
def Basin.coarsest (b : Basin) (tie : Tie) : (tries : Nat) → (grid : Int) → Digits
  | 0, grid => ⟨(b.onGrid grid).middle / (b.onGrid grid).unit, grid⟩
  | tries + 1, grid =>
    match (b.onGrid grid).nearest? tie with
    | some coefficient => ⟨coefficient, grid⟩
    | none => b.coarsest tie tries (grid - 1)

/-- A power of ten above the magnitude: `2 ^ n` is below `10 ^ (n * 0.30103 + 1)`. -/
def Magnitude.ceilingGrid (m : Magnitude) : Int :=
  (m.significand.log2 + m.exponent + 2) * 30103 / 100000 + 1

/-- The digits of a magnitude. Seventeen are always enough, and the search begins at most two
grids above the first digit. -/
def Magnitude.shortest (m : Magnitude) (tie : Tie) : Digits :=
  if m.significand = 0 then ⟨0, 0⟩
  else ((Basin.ofMagnitude m).coarsest tie 20 m.ceilingGrid).normalize

end WorkerVitals.Decimal
