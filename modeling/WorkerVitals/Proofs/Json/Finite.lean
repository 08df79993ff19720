import WorkerVitals.Json.Read
import WorkerVitals.Proofs.Binary64.Finite

namespace WorkerVitals.Json
open Float.Model (UnpackedFloat Format totalExponent)
open Float.Model.UnpackedFloat
open Binary64

/-- Up to `10 ^ 22` a power of ten is exact; above that it is rounded once. -/
private theorem powerOfTen_eq_round {exponent : Nat} (many : 22 < exponent)
    (few : exponent ≤ 2048) :
    (powerOfTen exponent).toModel = .pack (roundWithAccuracy Format.binary64 .positive
      (1 <<< 53 * 10 ^ exponent) (-53) .exact) := by
  have table : ¬(1 < 2 ^ 53 ∧ exponent ≤ 22) := by omega
  have high : ¬((exponent : Int) > 2 ^ 11) := by omega
  have low : ¬((exponent : Int) < -(2 ^ 11 + (Nat.log2 1 : Int))) := by omega
  simp only [powerOfTen, Float.ofScientific, dif_neg table, Float.Model.ofScientific,
    UnpackedFloat.ofScientific, Bool.false_eq_true, if_false, Int.ofNat_eq_natCast]
  rw [dif_neg (by decide), if_neg high, if_neg low, if_pos (Int.natCast_nonneg _)]
  rfl

private theorem log2_scaled_powerOfTen {exponent : Nat} (positive : 0 < exponent)
    (small : exponent ≤ 307) :
    54 ≤ (1 <<< 53 * 10 ^ exponent).log2 ∧ (1 <<< 53 * 10 ^ exponent).log2 ≤ 1072 := by
  constructor
  · refine (Nat.le_log2 (Nat.mul_ne_zero (by decide) (Nat.pow_pos (by decide)).ne')).mpr ?_
    calc 2 ^ 54 ≤ 1 <<< 53 * 10 ^ 1 := by decide
      _ ≤ 1 <<< 53 * 10 ^ exponent :=
          Nat.mul_le_mul_left _ (Nat.pow_le_pow_right (by decide) positive)
  · apply log2_le_of_lt
    calc 1 <<< 53 * 10 ^ exponent ≤ 1 <<< 53 * 10 ^ 307 :=
          Nat.mul_le_mul_left _ (Nat.pow_le_pow_right (by decide) small)
      _ < 2 ^ (1072 + 1) := by decide +kernel

theorem powerOfTen_range {exponent : Nat} (small : exponent ≤ 308) :
    (powerOfTen exponent).isFinite = true ∧
      (0 < exponent → Large (powerOfTen exponent).toModel.unpack) := by
  -- The exact powers are few enough to evaluate. The last power is, too: the bound on the bits of a
  -- rounded one leaves no room for it.
  by_cases rounded : 22 < exponent ∧ exponent ≤ 307
  · obtain ⟨wide, narrow⟩ := log2_scaled_powerOfTen (by omega) rounded.2
    have equation := powerOfTen_eq_round rounded.1 (by omega)
    unfold Float.isFinite
    rw [equation]
    constructor
    · exact isFinite_pack (fits_roundWithAccuracy _ _ (by omega) (by unfold totalExponent; omega))
    · intro _
      exact large_roundWithAccuracy (by omega) (by unfold totalExponent; omega)
        (by unfold totalExponent; omega)
  · have ends : exponent < 23 ∨ exponent = 308 := by omega
    rcases ends with few | rfl
    · have tabled : ∀ k < 23, (powerOfTen k).isFinite = true ∧
          (0 < k → Large (powerOfTen k).toModel.unpack) := by decide +kernel
      exact tabled exponent few
    · decide +kernel

theorem isFinite_div_powerOfTen {x : Float} (finite : x.isFinite = true) {exponent : Nat}
    (positive : 0 < exponent) (small : exponent ≤ 308) :
    (x / powerOfTen exponent).isFinite = true :=
  isFinite_div finite ((powerOfTen_range small).2 positive)

theorem isFinite_scale {x y : Float} {exponent : Int} (finite : x.isFinite = true)
    (scaled : scale x exponent = .ok y) : y.isFinite = true := by
  fun_induction scale x exponent with
  | case1 x exponent small up product large => cases scaled
  | case2 x exponent small up product bounded =>
    rw [← Except.ok.inj scaled]
    exact isFinite_mul finite (powerOfTen_range small).1 (Bool.eq_false_iff.mpr bounded)
  | case3 x exponent small down =>
    cases scaled
    exact isFinite_div_powerOfTen finite (by omega) small
  | case4 x exponent many zero =>
    cases scaled
    exact finite
  | case5 => cases scaled
  | case6 x exponent many nonzero down ih =>
    exact ih (isFinite_div_powerOfTen finite (Nat.zero_lt_succ _) (Nat.le_refl _)) scaled

theorem isFinite_applySign {x : Float} (negative : Bool) (finite : x.isFinite = true) :
    (applySign negative x).isFinite = true := by
  cases negative with
  | false => exact finite
  | true => exact isFinite_neg finite

theorem Numeral.isFinite_float {numeral : Numeral} {significand : Nat} {exponent : Int} {x : Float}
    (read : numeral.float significand exponent = .ok x) : x.isFinite = true := by
  have scaled {exponent : Int} (signed : (scale significand.toUInt64.toFloat exponent).map
      (applySign numeral.negative) = .ok x) : x.isFinite = true := by
    cases found : scale significand.toUInt64.toFloat exponent with
    | error reason => rw [found] at signed; cases signed
    | ok y =>
      rw [found] at signed
      cases signed
      exact isFinite_applySign _ (isFinite_scale (isFinite_toFloat _) found)
  unfold float at read
  split at read
  · exact scaled read
  · dsimp only at read
    split at read
    · exact scaled read
    · split at read
      · cases read
      · cases read
        exact isFinite_applySign _ (by decide)

theorem Numeral.isFinite_value {numeral : Numeral} {number : Number}
    (read : numeral.value = .ok number) : number.toFloat.isFinite = true := by
  unfold value at read
  dsimp only at read
  split at read
  · split at read
    · split at read
      · cases read
        exact isFinite_neg (isFinite_toFloat _)
      · cases read
        exact isFinite_neg (isFinite_toFloat _)
    · cases read
      exact isFinite_toFloat _
  · rename_i inexact
    generalize exact : numeral.float _ _ = float at read
    cases float with
    | error reason => cases read
    | ok x =>
      cases read
      exact isFinite_float exact

end WorkerVitals.Json
