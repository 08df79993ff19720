namespace WorkerVitals.Text

/-- First and last code point of each range. -/
abbrev CharRanges := List (Nat × Nat)

def CharRanges.holds (ranges : CharRanges) (c : Char) : Bool :=
  ranges.any fun (first, last) => first ≤ c.toNat && c.toNat ≤ last

end WorkerVitals.Text
