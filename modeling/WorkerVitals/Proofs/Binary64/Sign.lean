import Mathlib

namespace WorkerVitals.Binary64
open Float.Model (UnpackedFloat Format)
open Float.Model.UnpackedFloat

/-- No minus sign stands in front; what is no number has no sign. -/
def Plain : UnpackedFloat → Prop
  | .notANumber => True
  | .infinity sign | .zero sign | .finite sign .. => sign = .positive

/-- A number without a minus sign, or no number. -/
def Unsigned (x : Float) : Prop := Plain x.toModel.unpack

private theorem plain_unpack {spec : Format} {exponent : BitVec spec.exponentBits}
    {mantissa : BitVec spec.mantissaBitsWithoutImplicit} :
    Plain (UnpackedFloat.unpack spec (packComponents spec .positive exponent mantissa)) := by
  simp only [UnpackedFloat.unpack, unpackSign_packComponents]
  split
  · split
    · rfl
    · trivial
  · split
    · split <;> rfl
    · rfl

theorem plain_unpack_pack {u : UnpackedFloat} (plain : Plain u) :
    Plain (Float.Model.pack u).unpack := by
  change Plain (UnpackedFloat.unpack Format.binary64 (UnpackedFloat.pack Format.binary64 u))
  cases u with
  | notANumber => exact plain_unpack
  | infinity sign => cases plain; exact plain_unpack
  | zero sign => cases plain; exact plain_unpack
  | finite sign mantissa exponent positive =>
    cases plain
    simp only [UnpackedFloat.pack]
    split
    · exact plain_unpack
    · split <;> exact plain_unpack

private theorem plain_roundWithAccuracy (mantissa : Nat) (exponent : Int) (accuracy : Accuracy) :
    Plain (roundWithAccuracy Format.binary64 .positive mantissa exponent accuracy) := by
  simp only [roundWithAccuracy]
  split <;> rfl

private theorem plain_normalize (mantissa : Nat) (exponent : Int) :
    Plain (UnpackedFloat.normalize Format.binary64 mantissa exponent .positive) := by
  unfold UnpackedFloat.normalize
  split
  · rename_i below
    rw [Int.compare_eq_lt] at below
    omega
  · rfl
  · exact plain_roundWithAccuracy ..

/-- One case analysis for the three operations: only two finite numbers are rounded. -/
private theorem plain_arithmetic {u v : UnpackedFloat} (first : Plain u) (second : Plain v) :
    Plain (UnpackedFloat.add Format.binary64 u v) ∧ Plain (UnpackedFloat.mul Format.binary64 u v) ∧
      Plain (UnpackedFloat.div Format.binary64 u v) := by
  cases u with
  | notANumber => cases v <;> exact ⟨trivial, trivial, trivial⟩
  | infinity sign => cases first; cases v <;> cases second <;> refine ⟨?_, ?_, ?_⟩ <;> trivial
  | zero sign => cases first; cases v <;> cases second <;> refine ⟨?_, ?_, ?_⟩ <;> trivial
  | finite sign mantissa exponent positive =>
    cases first
    cases v with
    | finite =>
      cases second
      exact ⟨plain_normalize .., plain_roundWithAccuracy .., plain_roundWithAccuracy ..⟩
    | _ => cases second; refine ⟨?_, ?_, ?_⟩ <;> trivial

theorem unsigned_add {a b : Float} (first : Unsigned a) (second : Unsigned b) :
    Unsigned (a + b) := plain_unpack_pack (plain_arithmetic first second).1

theorem unsigned_mul {a b : Float} (first : Unsigned a) (second : Unsigned b) :
    Unsigned (a * b) := plain_unpack_pack (plain_arithmetic first second).2.1

theorem unsigned_div {a b : Float} (first : Unsigned a) (second : Unsigned b) :
    Unsigned (a / b) := plain_unpack_pack (plain_arithmetic first second).2.2

theorem unsigned_toFloat (word : UInt64) : Unsigned word.toFloat :=
  plain_unpack_pack (plain_normalize ..)

theorem lt_iff {a b : Float} : a < b ↔ a.toModel.unpack.compare b.toModel.unpack = some .lt := by
  change (decide (a.toModel < b.toModel) = true) ↔ _
  rw [decide_eq_true_iff]
  change ((a.toModel.unpack.compare b.toModel.unpack == some .lt) = true) ↔ _
  exact beq_iff_eq

theorem le_iff {a b : Float} :
    a ≤ b ↔ (a.toModel.unpack.compare b.toModel.unpack).any (·.isLE) = true := by
  change (decide (a.toModel ≤ b.toModel) = true) ↔ _
  rw [decide_eq_true_iff]
  rfl

theorem beq_iff {a b : Float} :
    (a == b) = true ↔ a.toModel.unpack.compare b.toModel.unpack = some .eq := by
  change ((a.toModel.unpack.compare b.toModel.unpack == some .eq) = true) ↔ _
  exact beq_iff_eq

private theorem unpack_zero : (0 : Float).toModel.unpack = .zero .positive := rfl

private theorem unpack_neg_one :
    (-1 : Float).toModel.unpack = .finite .negative (2 ^ 52) (-52) (by decide) := rfl

/-- What is above zero is the plain infinity or a plain finite number. -/
theorem unpack_of_pos {x : Float} (positive : 0 < x) :
    x.toModel.unpack = .infinity .positive ∨ ∃ mantissa exponent nonzero,
      x.toModel.unpack = .finite .positive mantissa exponent nonzero := by
  rw [lt_iff, unpack_zero] at positive
  cases form : x.toModel.unpack with
  | notANumber => rw [form] at positive; cases positive
  | zero sign => rw [form] at positive; cases positive
  | infinity sign =>
    cases sign with
    | negative => rw [form] at positive; cases positive
    | positive => exact .inl rfl
  | finite sign mantissa exponent nonzero =>
    cases sign with
    | negative => rw [form] at positive; cases positive
    | positive => exact .inr ⟨mantissa, exponent, nonzero, rfl⟩

theorem isNaN_of_le {x bound : Float} (below : x ≤ bound) : x.isNaN = false := by
  rw [le_iff] at below
  change x.toModel.unpack.isNaN = false
  cases form : x.toModel.unpack with
  | notANumber => rw [form] at below; cases below
  | infinity sign => rfl
  | zero sign => rfl
  | finite sign => rfl

/-- To be above zero is to be a number that is not zero or less. -/
theorem pos_iff {x : Float} : 0 < x ↔ x.isNaN = false ∧ ¬x ≤ 0 := by
  rw [lt_iff, le_iff, unpack_zero]
  change _ ↔ x.toModel.unpack.isNaN = false ∧ _
  cases x.toModel.unpack with
  | notANumber => decide
  | zero sign => cases sign <;> decide
  | infinity sign => cases sign <;> decide
  | finite sign => cases sign <;> simp [UnpackedFloat.compare, UnpackedFloat.isNaN]

theorem unsigned_of_pos {x : Float} (positive : 0 < x) : Unsigned x := by
  unfold Unsigned
  rcases unpack_of_pos positive with infinite | ⟨mantissa, exponent, nonzero, finite⟩
  · rw [infinite]; rfl
  · rw [finite]; rfl

/-- Without a minus sign, being below something is enough to be zero or more. -/
theorem nonneg_of_unsigned {x bound : Float} (unsigned : Unsigned x) (below : x ≤ bound) :
    0 ≤ x := by
  rw [le_iff, unpack_zero]
  rw [le_iff] at below
  unfold Unsigned at unsigned
  cases form : x.toModel.unpack with
  | notANumber => rw [form] at below; cases below
  | infinity sign => rw [form] at unsigned; cases unsigned; rfl
  | zero sign => rfl
  | finite sign => rw [form] at unsigned; cases unsigned; rfl

theorem zero_div_of_pos {x : Float} (positive : 0 < x) : 0 / x = 0 := by
  change Float.ofModel (.pack (UnpackedFloat.div Format.binary64 _ x.toModel.unpack)) = 0
  rw [unpack_zero]
  rcases unpack_of_pos positive with infinite | ⟨mantissa, exponent, nonzero, finite⟩
  · rw [infinite]; rfl
  · rw [finite]; rfl

theorem beq_neg_one_of_nonneg {x : Float} (nonneg : 0 ≤ x) : (x == -1) = false := by
  rw [Bool.eq_false_iff, ne_eq, beq_iff, unpack_neg_one]
  rw [le_iff, unpack_zero] at nonneg
  cases form : x.toModel.unpack with
  | notANumber => rintro ⟨⟩
  | zero sign => rintro ⟨⟩
  | infinity sign =>
    cases sign with
    | negative => rw [form] at nonneg; cases nonneg
    | positive => rintro ⟨⟩
  | finite sign =>
    cases sign with
    | negative => rw [form] at nonneg; cases nonneg
    | positive => rintro ⟨⟩

end WorkerVitals.Binary64
