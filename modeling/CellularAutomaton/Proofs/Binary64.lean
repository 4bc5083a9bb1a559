import CellularAutomaton.Random.ChaCha
import Mathlib

/-!
# Exact arithmetic on doubles

A product or a conversion whose result has at most 53 bits is not rounded. This is worked out for
the binary logarithm and the mantissa of the result, and then used for the draws from the unit
interval, which are whole multiples of `2 ^ (-53)`.
-/

open Float.Model Float.Model.UnpackedFloat

namespace CellularAutomaton.Binary64

theorem log2_mul_two_pow {m : ℕ} (k : ℕ) (pos : 0 < m) : (m * 2 ^ k).log2 = m.log2 + k := by
  induction k with
  | zero => simp
  | succ k ih =>
    rw [Nat.pow_succ, ← Nat.mul_assoc, Nat.mul_comm, Nat.log2_two_mul (by positivity), ih,
      Nat.add_assoc]

/-! ## Packing -/

theorem toNat_one_append {m : ℕ} (full : m.log2 = 52) : (1#1 ++ BitVec.ofNat 52 m).toNat = m := by
  have pos : m ≠ 0 := by
    rintro rfl
    simp at full
  obtain ⟨low, high⟩ := (Nat.log2_eq_iff pos).1 full
  rw [BitVec.toNat_append, BitVec.toNat_ofNat, BitVec.toNat_ofNat,
    ← Nat.shiftLeft_add_eq_or_of_lt (Nat.mod_lt _ (by decide)), Nat.shiftLeft_eq]
  omega

theorem pack_normal (s : Sign) {m : ℕ} {e : ℤ} (pos : 0 < m) (full : m.log2 = 52)
    (low : -1074 ≤ e) (high : e ≤ 971) :
    UnpackedFloat.pack Format.binary64 (.finite s m e pos) =
      packComponents Format.binary64 s (BitVec.ofNat 11 (e + 1075).toNat) (BitVec.ofNat 52 m) := by
  have biased : (e + (Format.binary64.exponentBias : ℤ) +
      (Format.binary64.mantissaBitsWithoutImplicit : ℤ)).toNat = (e + 1075).toNat := by
    simp [Format.exponentBias]
    omega
  have small : ¬2 ^ Format.binary64.exponentBits ≤ (e + 1075).toNat + 1 := by
    show ¬2048 ≤ _
    omega
  rw [UnpackedFloat.pack]
  simp only [biased, if_neg small, full]
  rfl

theorem unpack_pack_normal (s : Sign) {m : ℕ} {e : ℤ} (pos : 0 < m) (full : m.log2 = 52)
    (low : -1074 ≤ e) (high : e ≤ 971) :
    (Float.Model.pack (.finite s m e pos)).unpack = .finite s m e pos := by
  have packed := pack_normal s pos full low high
  have stored : (BitVec.ofNat 11 (e + 1075).toNat).toNat = (e + 1075).toNat := by
    rw [BitVec.toNat_ofNat]
    omega
  -- the stored exponent is neither that of infinity nor that of zero
  have other (b : BitVec 11) (far : b.toNat ≠ (e + 1075).toNat) :
      ¬BitVec.ofNat 11 (e + 1075).toNat = b := by
    rintro rfl
    exact far stored
  rw [Float.Model.pack, Float.Model.unpack]
  simp only [packed, UnpackedFloat.unpack, unpackMantissa_packComponents,
    unpackExponent_packComponents, unpackSign_packComponents, Sign.ofBitVec_toBitVec]
  rw [if_neg (other _ ?_), if_neg (other _ ?_)]
  · simp only [toNat_one_append full]
    congr
    rw [stored]
    simp [Format.exponentBias]
    omega
  · show (0 : ℕ) ≠ _
    omega
  · show (2047 : ℕ) ≠ _
    omega

/-! ## Rounding -/

theorem shiftRight_exact (m k : ℕ) :
    (⟨m * 2 ^ k, false, false⟩ : ExtendedMantissa) >>> k = ⟨m, false, false⟩ := by
  show k.repeat ExtendedMantissa.shiftRightOne ⟨m * 2 ^ k, false, false⟩ = _
  induction k generalizing m with
  | zero => simp [Nat.repeat]
  | succ k ih =>
    rw [Nat.repeat, Nat.pow_succ, ← Nat.mul_assoc, Nat.mul_right_comm, ih (m * 2)]
    simp [ExtendedMantissa.shiftRightOne]

theorem roundWithAccuracy_exact (s : Sign) {m : ℕ} (k : ℕ) {e : ℤ} (pos : 0 < m)
    (full : m.log2 = 52) (low : -1074 ≤ e + k) :
    roundWithAccuracy Format.binary64 s (m * 2 ^ k) e .exact = .finite s m (e + k) pos := by
  have scaled : (m * 2 ^ k).log2 = 52 + k := by rw [log2_mul_two_pow k pos, full]
  have target (n : ℕ) (j : ℤ) (same : n.log2 + 1 + j = e + k + 53) :
      Format.binary64.targetExponent (totalExponent n j) = e + k := by
    simp [Format.targetExponent, totalExponent, Format.minExponent, Format.mantissaBits]
    omega
  have first : shiftToTargetExponent Format.binary64 (m * 2 ^ k) e .exact =
      (⟨m, false, false⟩, e + k) := by
    have amount : (e + k - e).toNat = k := by omega
    rw [shiftToTargetExponent, target _ _ (by rw [scaled]; push_cast; omega), shiftToExponent]
    simp only [amount, ExtendedMantissa.ofMantissaAndAccuracy, shiftRight_exact]
  have second : shiftToTargetExponent Format.binary64 m (e + k) .exact =
      (⟨m, false, false⟩, e + k) := by
    have amount : (e + k - (e + k)).toNat = 0 := by omega
    rw [shiftToTargetExponent, target _ _ (by rw [full]; push_cast; omega), shiftToExponent]
    simp only [amount, ExtendedMantissa.ofMantissaAndAccuracy, Nat.cast_zero, Int.add_zero]
    rfl
  rw [roundWithAccuracy, first]
  simp only [ExtendedMantissa.roundedMantissa, ExtendedMantissa.accuracy,
    Accuracy.roundToNearestEven, second]
  rw [dif_neg (by omega)]

theorem ofNat_exact {n : ℕ} (pos : 0 < n) (small : n < 2 ^ 53) :
    ∃ m, ∃ pos' : 0 < m, m.log2 = 52 ∧
      UnpackedFloat.ofNat Format.binary64 n = .finite .positive m (n.log2 - 52) pos' := by
  have bound : n.log2 < 53 := (Nat.log2_lt (by omega)).2 small
  have target : Format.binary64.targetExponent (totalExponent n 0) = n.log2 - 52 := by
    simp [Format.targetExponent, totalExponent, Format.minExponent, Format.mantissaBits]
    omega
  have amount : (0 - ((n.log2 : ℤ) - 52)).toNat = 52 - n.log2 := by omega
  have exponent : 0 - ((52 - n.log2 : ℕ) : ℤ) = n.log2 - 52 := by omega
  have full : (n * 2 ^ (52 - n.log2)).log2 = 52 := by
    rw [log2_mul_two_pow _ pos]
    omega
  have pos' : 0 < n * 2 ^ (52 - n.log2) := by positivity
  have rounded := roundWithAccuracy_exact .positive 0 (e := n.log2 - 52) pos' full (by omega)
  simp only [Nat.pow_zero, Nat.mul_one, Nat.cast_zero, Int.add_zero] at rounded
  have positive : compare (n : ℤ) 0 = .gt := by
    rw [compare_gt_iff_gt]
    omega
  refine ⟨_, pos', full, ?_⟩
  simp only [UnpackedFloat.ofNat, UnpackedFloat.ofInt, UnpackedFloat.normalize, positive,
    Int.toNat_natCast, UnpackedFloat.round, target, decreaseExponent, amount, Nat.shiftLeft_eq,
      exponent, rounded]

/-! ## Order -/

theorem le_iff {x y : Float} : x ≤ y ↔ x.toModel.unpack.le y.toModel.unpack = true :=
  decide_eq_true_iff

theorem lt_iff {x y : Float} : x < y ↔ x.toModel.unpack.lt y.toModel.unpack = true :=
  decide_eq_true_iff

/-! ## Draws -/

theorem draw_of_zero {word : UInt64} (zero : word >>> 11 = 0) : Random.draw word = 0 := by
  rw [Random.draw, zero]
  rfl

/-- A draw that is not zero is not rounded. -/
theorem unpack_draw {word : UInt64} (some : word >>> 11 ≠ 0) :
    ∃ m, ∃ pos : 0 < m, ∃ e < (-52 : ℤ), (Random.draw word).toModel.unpack =
      .finite .positive m e pos := by
  have unit : (Float.ofBits 0x3CA0000000000000).toModel.unpack =
      .finite .positive (2 ^ 52) (-105) (by decide) := rfl
  have pos : 0 < (word >>> 11).toNat :=
    Nat.pos_of_ne_zero fun zero => some (UInt64.toNat_inj.1 zero)
  have small : (word >>> 11).toNat < 2 ^ 53 := by
    have := word.toNat_lt
    rw [UInt64.toNat_shiftRight, Nat.shiftRight_eq_div_pow]
    show word.toNat / 2 ^ 11 < 2 ^ 53
    omega
  show ∃ m, ∃ pos : 0 < m, ∃ e < (-52 : ℤ), (Float.Model.pack (UnpackedFloat.mul Format.binary64
    (Float.Model.pack (UnpackedFloat.ofNat Format.binary64 (word >>> 11).toNat)).unpack
    (Float.ofBits 0x3CA0000000000000).toModel.unpack)).unpack = .finite .positive m e pos
  rw [unit]
  generalize (word >>> 11).toNat = n at pos small
  obtain ⟨m, pos', full, whole⟩ := ofNat_exact pos small
  have bound : n.log2 < 53 := (Nat.log2_lt (by omega)).2 small
  rw [whole, unpack_pack_normal _ _ full (by omega) (by omega), UnpackedFloat.mul,
    roundWithAccuracy_exact _ _ pos' full (by push_cast; omega)]
  refine ⟨m, pos', _, ?_, unpack_pack_normal _ _ full (by push_cast; omega) (by push_cast; omega)⟩
  push_cast
  omega

theorem draw_le_one (word : UInt64) : Random.draw word ≤ 1.0 := by
  have one : (1.0 : Float).toModel.unpack = .finite .positive (2 ^ 52) (-52) (by decide) := rfl
  by_cases zero : word >>> 11 = 0
  · rw [draw_of_zero zero]
    rfl
  · obtain ⟨m, pos, e, below, unpacked⟩ := unpack_draw zero
    have lower : compare e (-52) = .lt := compare_lt_iff_lt.2 below
    rw [le_iff, unpacked, one]
    show ((some ((compare _ _).then _)).any _) = true
    rw [lower]
    rfl

end CellularAutomaton.Binary64
