import WorkerVitals.Proofs.Binary64.Finite
import WorkerVitals.Proofs.Binary64.Sign

namespace WorkerVitals.Binary64
open Float.Model (UnpackedFloat Format totalExponent)
open Float.Model.UnpackedFloat

theorem Reaches.mono {low high : Int} {u : UnpackedFloat} (reached : Reaches high u)
    (below : low ≤ high) : Reaches low u := by
  cases u with
  | notANumber => cases reached
  | zero sign => cases reached
  | infinity sign => trivial
  | finite sign mantissa exponent positive => exact Int.le_trans below reached

theorem pos_of_unsigned {x : Float} {place : Int} (unsigned : Unsigned x)
    (reached : Reaches place x.toModel.unpack) : 0 < x := by
  have zero : (0 : Float).toModel.unpack = .zero .positive := rfl
  rw [lt_iff, zero]
  unfold Unsigned at unsigned
  cases form : x.toModel.unpack with
  | notANumber => rw [form] at reached; cases reached
  | zero sign => rw [form] at reached; cases reached
  | infinity sign => rw [form] at unsigned; cases unsigned; rfl
  | finite sign => rw [form] at unsigned; cases unsigned; rfl

theorem isFinite_of_le {x bound : Float} (nonneg : 0 ≤ x) (bounded : x ≤ bound)
    (finite : bound.isFinite = true) : x.isFinite = true := by
  have zero : (0 : Float).toModel.unpack = .zero .positive := rfl
  rw [le_iff, zero] at nonneg
  rw [le_iff] at bounded
  change bound.toModel.unpack.isFinite = true at finite
  change x.toModel.unpack.isFinite = true
  cases form : x.toModel.unpack with
  | notANumber => rw [form] at nonneg; cases nonneg
  | infinity sign =>
    -- Only an infinity is above the plain one, and the other one is below zero.
    cases sign with
    | negative => rw [form] at nonneg; cases nonneg
    | positive =>
      rw [form] at bounded
      cases above : bound.toModel.unpack with
      | notANumber => rw [above] at finite; cases finite
      | infinity sign => rw [above] at finite; cases finite
      | zero sign => rw [above] at bounded; cases bounded
      | finite sign => rw [above] at bounded; cases bounded
  | zero sign => rfl
  | finite sign mantissa exponent positive => rfl

private theorem log2_shiftLeft {n : Nat} (positive : 0 < n) (places : Nat) :
    (n <<< places).log2 = n.log2 + places := by
  have shifted : 0 < n <<< places := by
    rw [Nat.shiftLeft_eq]
    exact Nat.mul_pos positive (Nat.two_pow_pos _)
  rw [Nat.log2_eq_iff shifted.ne', Nat.shiftLeft_eq, Nat.pow_add, Nat.add_right_comm, Nat.pow_add]
  exact ⟨Nat.mul_le_mul_right _ (Nat.log2_self_le positive.ne'),
    Nat.mul_lt_mul_of_pos_right Nat.lt_log2_self (Nat.two_pow_pos _)⟩

/-- A quotient has at most one bit less than the widths of its parts leave. -/
private theorem log2_div {n m : Nat} (positive : 0 < m) (wide : m.log2 < n.log2) :
    0 < n / m ∧ n.log2 - m.log2 ≤ (n / m).log2 + 1 := by
  obtain ⟨places, width⟩ : ∃ places, n.log2 = m.log2 + 1 + places := ⟨n.log2 - m.log2 - 1, by omega⟩
  have nonzero : n ≠ 0 := by
    rintro rfl
    rw [Nat.log2_zero] at wide
    omega
  have bound : 2 ^ places ≤ n / m := by
    rw [Nat.le_div_iff_mul_le positive]
    calc 2 ^ places * m ≤ 2 ^ places * 2 ^ (m.log2 + 1) :=
          Nat.mul_le_mul_left _ (Nat.le_of_lt Nat.lt_log2_self)
      _ = 2 ^ n.log2 := by rw [← Nat.pow_add, width, Nat.add_comm]
      _ ≤ n := Nat.log2_self_le nonzero
  have quotient : 0 < n / m := Nat.lt_of_lt_of_le (Nat.two_pow_pos _) bound
  have := (Nat.le_log2 quotient.ne').mpr bound
  exact ⟨quotient, by omega⟩

/-- The last place of a number never moves its first bit. -/
private theorem totalExponent_decreased {mantissa : Nat} (positive : 0 < mantissa)
    (exponent : Int) (places : Nat) :
    totalExponent (mantissa <<< places) (exponent - places) = totalExponent mantissa exponent := by
  simp only [totalExponent, log2_shiftLeft positive]
  omega

private theorem shiftLeft_pos {n : Nat} (positive : 0 < n) (places : Nat) : 0 < n <<< places := by
  rw [Nat.shiftLeft_eq]
  exact Nat.mul_pos positive (Nat.two_pow_pos _)

theorem reaches_round {mantissa : Nat} {exponent place : Int} {sign : Sign}
    (positive : 0 < mantissa) (normal : -1073 ≤ place)
    (reached : place ≤ totalExponent mantissa exponent) :
    Reaches place (Float.Model.pack
      (UnpackedFloat.round Format.binary64 sign mantissa exponent)).unpack := by
  simp only [UnpackedFloat.round, decreaseExponent, targetExponent_eq]
  refine reaches_roundWithAccuracy (shiftLeft_pos positive _) ?_ normal ?_
  · rw [totalExponent_decreased positive]
    omega
  · rw [totalExponent_decreased positive]
    exact reached

theorem reaches_normalize {mantissa : Nat} {exponent place : Int} (positive : 0 < mantissa)
    (normal : -1073 ≤ place) (reached : place ≤ totalExponent mantissa exponent) :
    Reaches place (Float.Model.pack
      (UnpackedFloat.normalize Format.binary64 mantissa exponent .positive)).unpack := by
  unfold UnpackedFloat.normalize
  split
  · rename_i below
    rw [Int.compare_eq_lt] at below
    omega
  · rename_i zero
    rw [Int.compare_eq_eq] at zero
    omega
  · rw [Int.toNat_natCast]
    exact reaches_round positive normal reached

theorem reaches_toFloat {word : UInt64} (nonzero : word ≠ 0) :
    Reaches 1 word.toFloat.toModel.unpack := by
  have positive : 0 < word.toNat := by
    rw [Nat.pos_iff_ne_zero]
    exact fun zero => nonzero (UInt64.toNat_inj.mp zero)
  refine reaches_normalize positive (by decide) ?_
  simp only [totalExponent]
  omega

/-- What is unpacked from bits is in its place. -/
private theorem placed_unpack {bits : BitVec Format.binary64.numBits} {sign : Sign} {mantissa : Nat}
    {exponent : Int} {positive : 0 < mantissa}
    (form : UnpackedFloat.unpack Format.binary64 bits = .finite sign mantissa exponent positive) :
    Placed mantissa exponent := by
  have bias : (Format.binary64.exponentBias : Int) = 1023 := rfl
  have fraction : (unpackMantissa bits).toNat < 2 ^ 52 := (unpackMantissa bits).isLt
  simp only [UnpackedFloat.unpack, bias] at form
  split at form
  · split at form <;> cases form
  · split at form
    · split at form
      · cases form
      · rename_i subnormal nonzero
        obtain ⟨-, rfl, rfl⟩ := UnpackedFloat.finite.inj form
        refine .inr ⟨(Nat.log2_lt positive.ne').mpr fraction, ?_⟩
        rw [subnormal]
        rfl
    · rename_i proper normal
      obtain ⟨-, rfl, rfl⟩ := UnpackedFloat.finite.inj form
      have nonzero : (unpackExponent bits).toNat ≠ 0 :=
        fun zero => normal (BitVec.eq_of_toNat_eq zero)
      exact .inl ⟨log2_leading_one _, by omega⟩

/-- A quotient reaches what the divisor leaves of the magnitude of the dividend. -/
theorem reaches_div {x y : Float} {sign : Sign} {mantissa : Nat} {exponent place : Int}
    {positive : 0 < mantissa} (reached : Reaches place x.toModel.unpack)
    (divisor : y.toModel.unpack = .finite sign mantissa exponent positive)
    (normal : -1073 ≤ place - totalExponent mantissa exponent) :
    Reaches (place - totalExponent mantissa exponent) (x / y).toModel.unpack := by
  change Reaches _ (Float.Model.pack (UnpackedFloat.div Format.binary64 _ _)).unpack
  rw [divisor]
  cases form : x.toModel.unpack with
  | notANumber => rw [form] at reached; cases reached
  | zero sign' => rw [form] at reached; cases reached
  | infinity sign' =>
    change Reaches _ (UnpackedFloat.unpack Format.binary64 (packedInfinity Format.binary64 _))
    rw [unpack_packedInfinity]
    trivial
  | finite sign' mantissa' exponent' positive' =>
    rw [form] at reached
    simp only [UnpackedFloat.div, divCore, targetExponent_eq]
    generalize place : min (exponent' - exponent) (max (totalExponent mantissa' exponent' -
      totalExponent mantissa exponent - 53) (-1074)) = last
    simp only [Reaches, totalExponent] at *
    have enough := log2_shiftLeft positive' (exponent' - exponent - last).toNat
    -- The dividend is shifted far enough for the quotient to have as many bits as its place asks for.
    have wide : mantissa.log2 + 1 ≤ (mantissa' <<< (exponent' - exponent - last).toNat).log2 := by
      omega
    obtain ⟨quotient, bits⟩ := log2_div positive wide
    refine reaches_roundWithAccuracy quotient ?_ normal ?_
    · simp only [totalExponent]
      omega
    · simp only [totalExponent]
      omega

theorem reaches_add {x y : Float} {place : Int} (finite : x.isFinite = true)
    (unsigned : Unsigned x) (finite' : y.isFinite = true) (unsigned' : Unsigned y)
    (normal : -1073 ≤ place)
    (reached : Reaches place x.toModel.unpack ∨ Reaches place y.toModel.unpack) :
    Reaches place (x + y).toModel.unpack := by
  change Reaches _ (Float.Model.pack (UnpackedFloat.add Format.binary64 _ _)).unpack
  rw [isFinite_iff] at finite finite'
  unfold Unsigned at unsigned unsigned'
  cases first : x.toModel.unpack with
  | notANumber => rw [first] at finite; cases finite
  | infinity sign => rw [first] at finite; cases finite
  | zero sign =>
    cases second : y.toModel.unpack with
    | notANumber => rw [second] at finite'; cases finite'
    | infinity sign' => rw [second] at finite'; cases finite'
    | zero sign' =>
      rw [first, second] at reached
      rcases reached with nothing | nothing <;> cases nothing
    | finite sign' mantissa' exponent' positive' =>
      rw [first, second] at reached
      rcases reached with nothing | reached
      · cases nothing
      · exact reaches_pack (placed_unpack second) reached
  | finite sign mantissa exponent positive =>
    rw [first] at unsigned reached
    cases unsigned
    cases second : y.toModel.unpack with
    | notANumber => rw [second] at finite'; cases finite'
    | infinity sign' => rw [second] at finite'; cases finite'
    | zero sign' =>
      rw [second] at reached
      rcases reached with reached | nothing
      · exact reaches_pack (placed_unpack first) reached
      · cases nothing
    | finite sign' mantissa' exponent' positive' =>
      rw [second] at unsigned' reached
      cases unsigned'
      simp only [UnpackedFloat.add, decreaseExponent, Sign.apply, ← Int.natCast_add]
      have wider := log2_mono
        (Nat.le_add_right (mantissa <<< (exponent - min exponent exponent').toNat)
          (mantissa' <<< (exponent' - min exponent exponent').toNat))
      have wider' := log2_mono
        (Nat.le_add_left (mantissa' <<< (exponent' - min exponent exponent').toNat)
          (mantissa <<< (exponent - min exponent exponent').toNat))
      have bits := log2_shiftLeft positive (exponent - min exponent exponent').toNat
      have bits' := log2_shiftLeft positive' (exponent' - min exponent exponent').toNat
      refine reaches_normalize ?_ normal ?_
      · exact Nat.add_pos_left (shiftLeft_pos positive _) _
      · simp only [Reaches, totalExponent] at reached ⊢
        omega

end WorkerVitals.Binary64
