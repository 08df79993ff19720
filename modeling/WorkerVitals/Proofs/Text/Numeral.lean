import Mathlib.Data.List.Induction
import Mathlib.Data.Nat.Digits.Defs
import WorkerVitals.Text.Blank
import WorkerVitals.Text.Numeral

namespace WorkerVitals.Text

/-- A text denotes a number: at most one plus sign, then one or more ASCII digits, which are the
number in base ten. -/
def Denotes (raw : List Char) (value : Nat) : Prop :=
  ∃ sign digits, raw = sign ++ digits ∧ (sign = [] ∨ sign = ['+']) ∧ digits ≠ [] ∧
    (∀ c ∈ digits, '0' ≤ c ∧ c ≤ '9') ∧ value = Nat.ofDigits 10 (digits.reverse.map digitValue)

def IsWord (raw : List Char) : Prop := ∃ value < 2 ^ 64, Denotes raw value

theorem IsWord.exists_count {raw : List Char} (numeral : IsWord raw) :
    ∃ count : UInt64, Denotes raw count.toNat := by
  obtain ⟨value, fits, denotes⟩ := numeral
  exact ⟨.ofNatLT value fits, by simpa using denotes⟩

theorem digitsValue_concat (front : List Char) (digit : Char) :
    digitsValue (front ++ [digit]) = 10 * digitsValue front + digitValue digit := by
  simp [digitsValue]

theorem digitsValue_eq_ofDigits (digits : List Char) :
    digitsValue digits = Nat.ofDigits 10 (digits.reverse.map digitValue) := by
  induction digits using List.reverseRecOn with
  | nil => rfl
  | append_singleton front digit ih =>
    rw [digitsValue_concat, ih, List.reverse_append, List.reverse_singleton, List.singleton_append,
      List.map_cons, Nat.ofDigits_cons, Nat.add_comm]

private theorem isDigit_iff {c : Char} : isDigit c = true ↔ '0' ≤ c ∧ c ≤ '9' := by
  simp [isDigit]

private theorem natural?_eq_some_iff {text : List Char} {value : Nat} :
    natural? text = some value ↔
      text ≠ [] ∧ (∀ c ∈ text, '0' ≤ c ∧ c ≤ '9') ∧ digitsValue text = value := by
  simp [natural?, isDigit_iff, and_assoc]

private theorem dropPlus_eq (text : List Char) :
    ∃ sign, text = sign ++ dropPlus text ∧ (sign = [] ∨ sign = ['+']) := by
  unfold dropPlus
  split
  · exact ⟨['+'], rfl, .inr rfl⟩
  · exact ⟨[], rfl, .inl rfl⟩

private theorem dropPlus_digits {sign digits : List Char} (signs : sign = [] ∨ sign = ['+'])
    (decimal : ∀ c ∈ digits, '0' ≤ c ∧ c ≤ '9') : dropPlus (sign ++ digits) = digits := by
  rcases signs with rfl | rfl
  · unfold dropPlus
    split
    · rename_i rest same
      have plus := decimal '+' (by simp [show digits = '+' :: rest from same])
      exact absurd plus (by decide)
    · rfl
  · rfl

/-- The numerals read as a number are those that denote it. -/
theorem natural?_dropPlus_iff {raw : List Char} {value : Nat} :
    natural? (dropPlus raw) = some value ↔ Denotes raw value := by
  rw [natural?_eq_some_iff]
  constructor
  · rintro ⟨nonempty, decimal, rfl⟩
    obtain ⟨sign, parts, signs⟩ := dropPlus_eq raw
    exact ⟨sign, dropPlus raw, parts, signs, nonempty, decimal, digitsValue_eq_ofDigits _⟩
  · rintro ⟨sign, digits, rfl, signs, nonempty, decimal, rfl⟩
    rw [dropPlus_digits signs decimal]
    exact ⟨nonempty, decimal, digitsValue_eq_ofDigits digits⟩

/-- A word is read from the numerals of its value, and from nothing else. -/
theorem word?_eq_some_iff {raw : List Char} {count : UInt64} :
    word? raw = some count ↔ Denotes raw count.toNat := by
  rw [← natural?_dropPlus_iff, word?]
  cases natural? (dropPlus raw) with
  | none => simp
  | some value =>
    by_cases fits : value < UInt64.size
    · simp [fits, ← UInt64.toNat_inj]
    · have large : value ≠ count.toNat := fun same => fits (same ▸ count.toNat_lt)
      simp [fits, large]

theorem word?_eq_none_iff {raw : List Char} : word? raw = none ↔ ¬IsWord raw := by
  constructor
  · intro unread numeral
    obtain ⟨count, denotes⟩ := numeral.exists_count
    exact absurd ((word?_eq_some_iff.mpr denotes).symm.trans unread) (Option.some_ne_none _)
  · intro numberless
    cases read : word? raw with
    | none => rfl
    | some count =>
      exact absurd ⟨count.toNat, count.toNat_lt, word?_eq_some_iff.mp read⟩ numberless

instance (raw : List Char) : Decidable (IsWord raw) :=
  decidable_of_iff (word? raw ≠ none) (by rw [ne_eq, word?_eq_none_iff, not_not])

private theorem digitChar_spec {value : Nat} (small : value < 10) :
    isDigit (digitChar value) = true ∧ digitValue (digitChar value) = value ∧
      (digitChar value = '0' → value = 0) := by
  have table : ∀ value < 10, isDigit (digitChar value) = true ∧
      digitValue (digitChar value) = value ∧ (digitChar value = '0' → value = 0) := by decide
  exact table value small

theorem digitsValue_decimal (value : Nat) : digitsValue (decimal value) = value := by
  induction value using decimal.induct with
  | case1 value small =>
    rw [decimal, if_pos small]
    simpa [digitsValue] using (digitChar_spec small).2.1
  | case2 value large ih =>
    rw [decimal, if_neg large, digitsValue_concat, ih,
      (digitChar_spec (Nat.mod_lt _ (by decide))).2.1]
    omega

theorem isDigit_decimal {value : Nat} {c : Char} (member : c ∈ decimal value) :
    isDigit c = true := by
  induction value using decimal.induct with
  | case1 value small =>
    rw [decimal, if_pos small, List.mem_singleton] at member
    rw [member]
    exact (digitChar_spec small).1
  | case2 value large ih =>
    rw [decimal, if_neg large, List.mem_append, List.mem_singleton] at member
    rcases member with member | rfl
    · exact ih member
    · exact (digitChar_spec (Nat.mod_lt _ (by decide))).1

theorem isDigit_not_blank {c : Char} (digit : isDigit c = true) : ¬isBlank c := by
  obtain ⟨low, high⟩ := isDigit_iff.mp digit
  have low : 48 ≤ c.toNat := low
  have high : c.toNat ≤ 57 := high
  simp [isBlank, blankRanges, CharRanges.holds]
  omega

theorem decimal_ne_nil (value : Nat) : decimal value ≠ [] := by
  rw [decimal]
  split <;> simp

theorem decimal_eq_zero_cons {value : Nat} {rest : List Char} (zero : decimal value = '0' :: rest) :
    value = 0 := by
  induction value using decimal.induct generalizing rest with
  | case1 value small =>
    rw [decimal, if_pos small] at zero
    exact (digitChar_spec small).2.2 (List.cons.inj zero).1
  | case2 value large ih =>
    rw [decimal, if_neg large] at zero
    cases front : decimal (value / 10) with
    | nil => exact absurd front (decimal_ne_nil _)
    | cons c more =>
      rw [front, List.cons_append] at zero
      have none := ih (front.trans (congrArg (· :: more) (List.cons.inj zero).1))
      omega

theorem digitsValue_zeros (zeros : Nat) (digits : List Char) :
    digitsValue (List.replicate zeros '0' ++ digits) = digitsValue digits := by
  induction zeros with
  | zero => rfl
  | succ zeros ih => exact ih

theorem isDigit_zeros_decimal {zeros value : Nat} {c : Char}
    (member : c ∈ List.replicate zeros '0' ++ decimal value) : isDigit c = true := by
  rcases List.mem_append.mp member with zero | digit
  · rw [List.eq_of_mem_replicate zero]
    rfl
  · exact isDigit_decimal digit

/-- Leading zeros do not count. -/
theorem denotes_zeros_decimal (zeros value : Nat) :
    Denotes (List.replicate zeros '0' ++ decimal value) value := by
  refine ⟨[], List.replicate zeros '0' ++ decimal value, rfl, .inl rfl, ?_, ?_, ?_⟩
  · exact fun empty => decimal_ne_nil value (List.append_eq_nil_iff.mp empty).2
  · exact fun c member => isDigit_iff.mp (isDigit_zeros_decimal member)
  · rw [← digitsValue_eq_ofDigits, digitsValue_zeros, digitsValue_decimal]

end WorkerVitals.Text
