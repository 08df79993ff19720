import Mathlib

namespace WorkerVitals.Binary64
open Float.Model (UnpackedFloat Format totalExponent)
open Float.Model.UnpackedFloat

/-- Zero, or a mantissa of at most 53 bits whose last place is at most that of the largest
number. -/
def Fits : UnpackedFloat → Prop
  | .notANumber | .infinity _ => False
  | .zero _ => True
  | .finite _ mantissa exponent _ => mantissa.log2 ≤ 52 ∧ exponent ≤ 971

private theorem isFinite_unpack_components {sign : Sign} {exponent : BitVec 11}
    {mantissa : BitVec 52} (proper : exponent ≠ -1#11) :
    (UnpackedFloat.unpack Format.binary64
      (packComponents Format.binary64 sign exponent mantissa)).isFinite = true := by
  have kept : unpackExponent (packComponents Format.binary64 sign exponent mantissa) = exponent :=
    unpackExponent_packComponents
  simp only [UnpackedFloat.unpack, kept, if_neg proper]
  split
  · split <;> rfl
  · rfl

private theorem toNat_biased {exponent : Int}
    (small : (exponent + (1023 : Nat) + (52 : Nat)).toNat + 1 < 2 ^ 11) :
    (BitVec.ofNat 11 (exponent + (1023 : Nat) + (52 : Nat)).toNat).toNat =
      (exponent + (1023 : Nat) + (52 : Nat)).toNat := by
  rw [BitVec.toNat_ofNat, Nat.mod_eq_of_lt (by omega)]

private theorem isFinite_pack_finite {sign : Sign} {mantissa : Nat} {exponent : Int}
    {positive : 0 < mantissa} (small : (exponent + (1023 : Nat) + (52 : Nat)).toNat + 1 < 2 ^ 11) :
    (Float.Model.pack (.finite sign mantissa exponent positive)).isFinite = true := by
  change (UnpackedFloat.unpack Format.binary64
    (UnpackedFloat.pack Format.binary64 _)).isFinite = true
  simp only [UnpackedFloat.pack, show Format.binary64.exponentBias = 1023 from rfl]
  rw [if_neg (Nat.not_le.mpr small)]
  split
  · apply isFinite_unpack_components
    intro same
    have : (exponent + (1023 : Nat) + (52 : Nat)).toNat = 2047 :=
      (toNat_biased small).symm.trans (congrArg BitVec.toNat same)
    omega
  · exact isFinite_unpack_components (by decide)

/-- What fits is finite when it is packed into bits. -/
theorem isFinite_pack {u : UnpackedFloat} (fits : Fits u) :
    (Float.Model.pack u).isFinite = true := by
  cases u with
  | notANumber => cases fits
  | infinity sign => cases fits
  | zero sign => exact isFinite_unpack_components (by decide)
  | finite sign mantissa exponent positive =>
    have := fits.2
    exact isFinite_pack_finite (by omega)

theorem unpack_packedInfinity (sign : Sign) :
    UnpackedFloat.unpack Format.binary64 (packedInfinity Format.binary64 sign) =
      .infinity sign := by
  cases sign <;> rfl

theorem isFinite_pack_of_bounded {u : UnpackedFloat} (number : u ≠ .notANumber)
    (bounded : (Float.Model.pack u).isInf = false) : (Float.Model.pack u).isFinite = true := by
  change (UnpackedFloat.unpack Format.binary64 (UnpackedFloat.pack Format.binary64 u)).isInf = false
    at bounded
  cases u with
  | notANumber => exact absurd rfl number
  | infinity sign =>
    rw [UnpackedFloat.pack, unpack_packedInfinity] at bounded
    cases bounded
  | zero sign => exact isFinite_unpack_components (by decide)
  | finite sign mantissa exponent positive =>
    by_cases small : (exponent + (1023 : Nat) + (52 : Nat)).toNat + 1 < 2 ^ 11
    · exact isFinite_pack_finite small
    · simp only [UnpackedFloat.pack, show Format.binary64.exponentBias = 1023 from rfl] at bounded
      rw [if_pos (Nat.not_lt.mp small), unpack_packedInfinity] at bounded
      cases bounded

theorem log2_le_of_lt {n k : Nat} (below : n < 2 ^ (k + 1)) : n.log2 ≤ k := by
  by_cases zero : n = 0
  · subst zero; exact Nat.zero_le _
  · exact Nat.le_of_lt_succ ((Nat.log2_lt zero).mpr below)

theorem log2_mono {n m : Nat} (below : n ≤ m) : n.log2 ≤ m.log2 := by
  rw [Nat.log2_eq_log_two, Nat.log2_eq_log_two]
  exact Nat.log_mono_right below

private theorem log2_div_pow (n places : Nat) : (n / 2 ^ places).log2 = n.log2 - places := by
  rw [Nat.log2_eq_log_two, Nat.log2_eq_log_two, Nat.log_div_base_pow]

private theorem log2_shiftLeft_le (n places : Nat) : (n <<< places).log2 ≤ n.log2 + places := by
  apply log2_le_of_lt
  rw [Nat.shiftLeft_eq, Nat.add_right_comm, Nat.pow_add]
  exact Nat.mul_lt_mul_of_pos_right Nat.lt_log2_self (Nat.two_pow_pos _)

private theorem log2_div_le (n : Nat) {m : Nat} (positive : 0 < m) :
    (n / m).log2 ≤ n.log2 - m.log2 := by
  rw [← log2_div_pow]
  exact log2_mono (Nat.div_le_div_left (Nat.log2_self_le (Nat.ne_of_gt positive))
    (Nat.two_pow_pos _))

private theorem fits_unpack {bits : BitVec Format.binary64.numBits}
    (finite : (UnpackedFloat.unpack Format.binary64 bits).isFinite = true) :
    Fits (UnpackedFloat.unpack Format.binary64 bits) := by
  have bias : (Format.binary64.exponentBias : Int) = 1023 := rfl
  have width : (unpackExponent bits).toNat < 2 ^ 11 := (unpackExponent bits).isLt
  have fraction : (unpackMantissa bits).toNat < 2 ^ 52 := (unpackMantissa bits).isLt
  have mantissa : (1#1 ++ unpackMantissa bits).toNat < 2 ^ 53 := (1#1 ++ unpackMantissa bits).isLt
  simp only [UnpackedFloat.unpack, bias] at finite ⊢
  by_cases proper : unpackExponent bits = -1#11
  · rw [if_pos proper] at finite
    split at finite <;> cases finite
  · have below : (unpackExponent bits).toNat ≠ 2047 :=
      fun same => proper (BitVec.eq_of_toNat_eq same)
    rw [if_neg proper]
    split
    · split
      · trivial
      · rename_i subnormal _
        rw [subnormal]
        exact ⟨log2_le_of_lt (Nat.lt_trans fraction (by decide)), by decide⟩
    · exact ⟨log2_le_of_lt mantissa, by omega⟩

theorem isFinite_iff {x : Float} : x.isFinite = true ↔ Fits x.toModel.unpack := by
  constructor
  · exact fits_unpack
  · intro fits
    change x.toModel.unpack.isFinite = true
    cases form : x.toModel.unpack with
    | notANumber => rw [form] at fits; cases fits
    | infinity sign => rw [form] at fits; cases fits
    | zero sign => rfl
    | finite sign mantissa exponent positive => rfl

private theorem mantissa_shiftRight (extended : ExtendedMantissa) (places : Nat) :
    (extended >>> places).mantissa = extended.mantissa / 2 ^ places := by
  induction places generalizing extended with
  | zero => simp [HShiftRight.hShiftRight, Nat.repeat]
  | succ places ih =>
    change (extended >>> places).mantissa / 2 = _
    rw [ih, Nat.div_div_eq_div_mul, Nat.pow_succ]

private theorem roundedMantissa_le (extended : ExtendedMantissa) :
    extended.roundedMantissa ≤ extended.mantissa + 1 := by
  rcases extended with ⟨mantissa, round, sticky⟩
  cases round <;> cases sticky <;>
    simp [ExtendedMantissa.roundedMantissa, ExtendedMantissa.accuracy, Accuracy.roundToNearestEven]
  omega

private theorem mantissa_ofAccuracy (mantissa : Nat) (accuracy : Accuracy) :
    (ExtendedMantissa.ofMantissaAndAccuracy mantissa accuracy).mantissa = mantissa := by
  cases accuracy with
  | exact => rfl
  | inexact side => cases side <;> rfl

private theorem log2_le_succ {n m : Nat} (close : n ≤ m + 1) : n.log2 ≤ m.log2 + 1 := by
  have := Nat.lt_log2_self (n := m)
  apply log2_le_of_lt
  rw [Nat.pow_succ]
  omega

/-- The last place of a number of 53 bits, but no lower than that of the smallest number. -/
theorem targetExponent_eq (place : Int) :
    Format.binary64.targetExponent place = max (place - 53) (-1074) := rfl

/-- A shift takes the last place to that of 53 bits, or to the least place of all, and leaves the
first bit where it is. -/
private theorem shift_bounds (mantissa : Nat) (exponent : Int) (accuracy : Accuracy) :
    let shifted := shiftToTargetExponent Format.binary64 mantissa exponent accuracy
    shifted.2 = max exponent (max (totalExponent mantissa exponent - 53) (-1074)) ∧
      shifted.1.mantissa.log2 = mantissa.log2 - (shifted.2 - exponent).toNat := by
  simp only [shiftToTargetExponent, shiftToExponent, mantissa_shiftRight, mantissa_ofAccuracy,
    log2_div_pow, targetExponent_eq]
  omega

theorem fits_roundWithAccuracy {mantissa : Nat} {exponent : Int} (sign : Sign) (accuracy : Accuracy)
    (low : exponent ≤ 971) (below : totalExponent mantissa exponent ≤ 1023) :
    Fits (roundWithAccuracy Format.binary64 sign mantissa exponent accuracy) := by
  obtain ⟨place, first⟩ := shift_bounds mantissa exponent accuracy
  simp only [roundWithAccuracy]
  generalize shiftToTargetExponent Format.binary64 mantissa exponent accuracy = shifted at *
  -- Rounding up may carry into one more bit, and the second shift takes it back.
  have carried := log2_le_succ (roundedMantissa_le shifted.1)
  obtain ⟨lastPlace, last⟩ := shift_bounds shifted.1.roundedMantissa shifted.2 .exact
  split
  · trivial
  · simp only [Fits, totalExponent] at *
    omega

theorem isFinite_neg {x : Float} (finite : x.isFinite = true) : (-x).isFinite = true := by
  apply isFinite_pack
  rw [isFinite_iff] at finite
  cases form : x.toModel.unpack with
  | notANumber => rw [form] at finite; cases finite
  | infinity sign => rw [form] at finite; cases finite
  | zero sign => trivial
  | finite sign mantissa exponent positive => rw [form] at finite; exact finite

theorem isFinite_toFloat (word : UInt64) : word.toFloat.isFinite = true := by
  apply isFinite_pack
  have bound := word.toNat_lt
  change Fits (UnpackedFloat.normalize Format.binary64 word.toNat 0 .positive)
  unfold UnpackedFloat.normalize
  split
  · rename_i below
    rw [Int.compare_eq_lt] at below
    omega
  · trivial
  · simp only [UnpackedFloat.round, decreaseExponent, Int.toNat_natCast, targetExponent_eq]
    generalize (0 - max (totalExponent word.toNat 0 - 53) (-1074)).toNat = places
    have start := log2_le_of_lt bound
    have shifted := log2_shiftLeft_le word.toNat places
    refine fits_roundWithAccuracy .positive .exact (by omega) ?_
    simp only [totalExponent]
    omega

/-- A product of finite numbers is finite or too large, never without a value. -/
theorem isFinite_mul {x y : Float} (first : x.isFinite = true) (second : y.isFinite = true)
    (bounded : (x * y).isInf = false) : (x * y).isFinite = true := by
  refine isFinite_pack_of_bounded ?_ bounded
  rw [isFinite_iff] at first second
  cases left : x.toModel.unpack with
  | notANumber => rw [left] at first; cases first
  | infinity sign => rw [left] at first; cases first
  | zero sign =>
    cases right : y.toModel.unpack with
    | notANumber => rw [right] at second; cases second
    | infinity sign => rw [right] at second; cases second
    | _ => rintro ⟨⟩
  | finite sign mantissa exponent positive =>
    cases right : y.toModel.unpack with
    | notANumber => rw [right] at second; cases second
    | infinity sign => rw [right] at second; cases second
    | zero sign => rintro ⟨⟩
    | finite =>
      simp only [UnpackedFloat.mul, roundWithAccuracy]
      split <;> rintro ⟨⟩

/-- At least a power of two in magnitude, or infinite. -/
def Reaches (place : Int) : UnpackedFloat → Prop
  | .notANumber | .zero _ => False
  | .infinity _ => True
  | .finite _ mantissa exponent _ => place ≤ totalExponent mantissa exponent

/-- A mantissa of 53 bits, or a shorter one at the least place of all. -/
def Placed (mantissa : Nat) (exponent : Int) : Prop :=
  mantissa.log2 = 52 ∧ -1074 ≤ exponent ∨ mantissa.log2 < 52 ∧ exponent = -1074

private theorem toNat_leading_one (fraction : BitVec 52) :
    (1#1 ++ fraction).toNat = 2 ^ 52 + fraction.toNat := by
  rw [BitVec.toNat_append, ← Nat.shiftLeft_add_eq_or_of_lt fraction.isLt]
  rfl

theorem log2_leading_one (fraction : BitVec 52) : (1#1 ++ fraction).toNat.log2 = 52 := by
  have below : (1#1 ++ fraction).toNat < 2 ^ 53 := (1#1 ++ fraction).isLt
  apply Nat.le_antisymm (log2_le_of_lt below)
  rw [toNat_leading_one]
  exact (Nat.le_log2 (by omega)).mpr (Nat.le_add_right ..)

/-- What is in its place keeps its magnitude when it is packed into bits. -/
theorem reaches_pack {sign : Sign} {mantissa : Nat} {exponent place : Int}
    {positive : 0 < mantissa} (placed : Placed mantissa exponent)
    (reached : place ≤ totalExponent mantissa exponent) :
    Reaches place (Float.Model.pack (.finite sign mantissa exponent positive)).unpack := by
  change Reaches place (UnpackedFloat.unpack Format.binary64 (UnpackedFloat.pack Format.binary64 _))
  have bias : Format.binary64.exponentBias = 1023 := rfl
  simp only [UnpackedFloat.pack, bias]
  split
  · rw [unpack_packedInfinity]
    trivial
  · rename_i large
    have small := Nat.lt_of_not_le large
    have biased := toNat_biased small
    rcases placed with ⟨full, low⟩ | ⟨short, least⟩
    · rw [if_pos (by rw [full]; rfl)]
      simp only [UnpackedFloat.unpack, unpackExponent_packComponents,
        unpackMantissa_packComponents, bias]
      -- The biased exponent is neither of its two ends, so the leading bit is put back.
      rw [if_neg, if_neg]
      · have wide := log2_leading_one (BitVec.ofNat 52 mantissa)
        simp only [Reaches, totalExponent, biased] at reached ⊢
        omega
      · intro same
        have : (exponent + (1023 : Nat) + (52 : Nat)).toNat = 0 :=
          biased.symm.trans (congrArg BitVec.toNat same)
        omega
      · intro same
        have : (exponent + (1023 : Nat) + (52 : Nat)).toNat = 2047 :=
          biased.symm.trans (congrArg BitVec.toNat same)
        omega
    · subst least
      have kept : (BitVec.ofNat 52 mantissa).toNat = mantissa :=
        Nat.mod_eq_of_lt ((Nat.log2_lt (Nat.ne_of_gt positive)).mp short)
      have nonzero : BitVec.ofNat 52 mantissa ≠ 0#52 := by
        intro same
        have : mantissa = 0 := kept.symm.trans (congrArg BitVec.toNat same)
        omega
      rw [if_neg (by change ¬mantissa.log2 + 1 = 53; omega)]
      simp only [UnpackedFloat.unpack, unpackExponent_packComponents,
        unpackMantissa_packComponents, bias]
      rw [if_neg (by decide), if_pos trivial, dif_neg nonzero]
      simp only [Reaches, kept]
      exact reached

private theorem le_roundedMantissa (extended : ExtendedMantissa) :
    extended.mantissa ≤ extended.roundedMantissa := by
  rcases extended with ⟨mantissa, round, sticky⟩
  cases round <;> cases sticky <;>
    simp [ExtendedMantissa.roundedMantissa, ExtendedMantissa.accuracy, Accuracy.roundToNearestEven]

/-- A shift leaves the first bit of a number that is not below all numbers. -/
private theorem shift_pos {mantissa : Nat} {exponent : Int} (positive : 0 < mantissa)
    (normal : -1074 ≤ exponent + mantissa.log2) (accuracy : Accuracy) :
    0 < (shiftToTargetExponent Format.binary64 mantissa exponent accuracy).1.mantissa := by
  simp only [shiftToTargetExponent, shiftToExponent, mantissa_shiftRight, mantissa_ofAccuracy,
    targetExponent_eq]
  refine Nat.div_pos ?_ (Nat.two_pow_pos _)
  refine Nat.le_trans (Nat.pow_le_pow_right (by decide) ?_) (Nat.log2_self_le positive.ne')
  simp only [totalExponent]
  omega

/-- A number with enough bits for its place still reaches a power of two when it is rounded. -/
theorem reaches_roundWithAccuracy {mantissa : Nat} {exponent place : Int} {sign : Sign}
    {accuracy : Accuracy} (positive : 0 < mantissa)
    (enough : exponent ≤ max (totalExponent mantissa exponent - 53) (-1074))
    (normal : -1073 ≤ place) (reached : place ≤ totalExponent mantissa exponent) :
    Reaches place (Float.Model.pack
      (roundWithAccuracy Format.binary64 sign mantissa exponent accuracy)).unpack := by
  obtain ⟨lastPlace, first⟩ := shift_bounds mantissa exponent accuracy
  have inside : -1074 ≤ exponent + mantissa.log2 := by
    simp only [totalExponent] at reached
    omega
  have shifted_pos := shift_pos positive inside accuracy
  simp only [roundWithAccuracy]
  generalize shiftToTargetExponent Format.binary64 mantissa exponent accuracy = shifted at *
  -- Rounding up may carry into one more bit, and the second shift takes it back.
  have grown := le_roundedMantissa shifted.1
  have kept := log2_mono grown
  have carried := log2_le_succ (roundedMantissa_le shifted.1)
  obtain ⟨finalPlace, final⟩ := shift_bounds shifted.1.roundedMantissa shifted.2 .exact
  simp only [totalExponent] at *
  have stays : -1074 ≤ shifted.2 + shifted.1.roundedMantissa.log2 := by omega
  have final_pos := shift_pos (Nat.lt_of_lt_of_le shifted_pos grown) stays .exact
  rw [dif_neg final_pos.ne']
  refine reaches_pack ?_ ?_
  · unfold Placed
    omega
  · simp only [totalExponent]
    omega

/-- A number of two or more in magnitude. -/
def Large : UnpackedFloat → Prop
  | .finite _ mantissa exponent _ => 2 ≤ totalExponent mantissa exponent
  | _ => False

instance : (u : UnpackedFloat) → Decidable (Large u)
  | .finite _ mantissa exponent _ =>
    inferInstanceAs (Decidable (2 ≤ totalExponent mantissa exponent))
  | .zero _ | .infinity _ | .notANumber => inferInstanceAs (Decidable False)

private theorem large_of_reaches {u : UnpackedFloat} (finite : u.isFinite = true)
    (reached : Reaches 2 u) : Large u := by
  cases u with
  | finite => exact reached
  | infinity sign => cases finite
  | zero sign => cases reached
  | notANumber => cases reached

theorem large_roundWithAccuracy {mantissa : Nat} {exponent : Int} {sign : Sign}
    {accuracy : Accuracy} (full : 52 ≤ mantissa.log2)
    (large : 2 ≤ totalExponent mantissa exponent)
    (below : totalExponent mantissa exponent ≤ 1023) :
    Large (Float.Model.pack
      (roundWithAccuracy Format.binary64 sign mantissa exponent accuracy)).unpack := by
  have positive : 0 < mantissa := by
    rcases mantissa.eq_zero_or_pos with zero | positive
    · rw [zero, Nat.log2_zero] at full
      omega
    · exact positive
  have enough : exponent ≤ totalExponent mantissa exponent - 53 := by
    simp only [totalExponent]
    omega
  have low : exponent ≤ 971 := by omega
  exact large_of_reaches (isFinite_pack (fits_roundWithAccuracy sign accuracy low below))
    (reaches_roundWithAccuracy positive (by omega) (by omega) large)

/-- A quotient by a number of two or more is finite. -/
theorem isFinite_div {x y : Float} (finite : x.isFinite = true) (large : Large y.toModel.unpack) :
    (x / y).isFinite = true := by
  apply isFinite_pack
  rw [isFinite_iff] at finite
  cases right : y.toModel.unpack with
  | finite sign' mantissa' exponent' positive' =>
    rw [right] at large
    cases left : x.toModel.unpack with
    | notANumber => rw [left] at finite; cases finite
    | infinity sign => rw [left] at finite; cases finite
    | zero sign => trivial
    | finite sign mantissa exponent positive =>
      rw [left] at finite
      simp only [Fits, Large] at finite large
      simp only [UnpackedFloat.div, divCore, targetExponent_eq]
      generalize place : min (exponent - exponent') (max (totalExponent mantissa exponent -
        totalExponent mantissa' exponent' - 53) (-1074)) = last
      have shifted := log2_shiftLeft_le mantissa (exponent - exponent' - last).toNat
      have divided := log2_div_le (mantissa <<< (exponent - exponent' - last).toNat) positive'
      simp only [totalExponent] at *
      exact fits_roundWithAccuracy _ _ (by omega) (by simp only [totalExponent]; omega)
  | _ => rw [right] at large; cases large

end WorkerVitals.Binary64
