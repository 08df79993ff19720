namespace WorkerVitals.Text

def isDigit (c : Char) : Bool := '0' ≤ c && c ≤ '9'

/-- The value of one digit. -/
def digitValue (c : Char) : Nat := c.toNat - '0'.toNat

/-- The value of a run of digits, the most significant first. -/
def digitsValue (digits : List Char) : Nat :=
  digits.foldl (fun value digit => 10 * value + digitValue digit) 0

/-- One or more digits and nothing else. -/
def natural? (text : List Char) : Option Nat :=
  if text ≠ [] ∧ text.all isDigit then some (digitsValue text) else none

/-- A text without the one plus sign it may begin with. -/
def dropPlus : List Char → List Char
  | '+' :: rest => rest
  | text => text

/-- A numeral for a 64-bit word: digits, perhaps after a plus sign, with a value below 2^64. -/
def word? (text : List Char) : Option UInt64 := do
  let value ← natural? (dropPlus text)
  if fits : value < UInt64.size then some (.ofNatLT value fits) else none

/-- A whole number with a sign, or none, in front. -/
def integer? : List Char → Option Int
  | '-' :: rest => (natural? rest).map fun value => -(value : Int)
  | text => (natural? (dropPlus text)).map Int.ofNat

/-- A numeral for a signed 64-bit number. -/
def signed? (text : List Char) : Option Int64 := do
  let value ← integer? text
  if Int64.minValue.toInt ≤ value ∧ value ≤ Int64.maxValue.toInt then some (.ofInt value) else none

/-- The digit with a value below ten. -/
def digitChar (value : Nat) : Char := Char.ofNat ('0'.toNat + value)

/-- The decimal digits of a number, without leading zeros; zero has the one digit `0`. -/
def decimal (value : Nat) : List Char :=
  if value < 10 then [digitChar value] else decimal (value / 10) ++ [digitChar (value % 10)]

def decimalInt (value : Int) : List Char :=
  if value < 0 then '-' :: decimal value.natAbs else decimal value.natAbs

/-- The hexadecimal digit with a value below sixteen, in lower case. -/
def hexDigit (value : Nat) : Char :=
  if value < 10 then digitChar value else Char.ofNat ('a'.toNat + (value - 10))

/-- The hexadecimal digits of a number, without leading zeros. -/
def hexadecimal (value : Nat) : List Char :=
  if value < 16 then [hexDigit value] else hexadecimal (value / 16) ++ [hexDigit (value % 16)]

/-- The value of a hexadecimal digit of either case. -/
def hexValue? (c : Char) : Option Nat :=
  if isDigit c then some (digitValue c)
  else if 'a' ≤ c ∧ c ≤ 'f' then some (c.toNat - 'a'.toNat + 10)
  else if 'A' ≤ c ∧ c ≤ 'F' then some (c.toNat - 'A'.toNat + 10)
  else none

/-- The number that hexadecimal digits stand for. -/
def hexNumber? (digits : List Char) : Option Nat :=
  digits.foldlM (fun value digit => (hexValue? digit).map (16 * value + ·)) 0

end WorkerVitals.Text
