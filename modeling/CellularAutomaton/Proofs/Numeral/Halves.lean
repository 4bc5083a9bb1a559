import CellularAutomaton.Proofs.Value

/-!
# Halves of whole numbers

The double nearest to a fraction is found by its code, which is the mantissa with the exponent
before it. The code of a full mantissa is unpacked to this mantissa again. So half of a whole number
below `2 ^ 53`, which is a full mantissa of some exponent, is the value of the double that is
nearest to it.
-/

open Float.Model Float.Model.UnpackedFloat

namespace CellularAutomaton.Numeral

variable {m : Magnitude}

theorem unpack_code (canonical : m.Canonical) (full : 2 ^ 52 ≤ m.mantissa) {b : BitVec 64}
    (bits : b.toNat = m.shift * 2 ^ 52 + m.mantissa) :
    UnpackedFloat.unpack Format.binary64 b =
      .finite .positive m.mantissa (m.shift - 1074) canonical.pos := by
  have small := canonical.small
  have bound := canonical.bound
  have exponent : (@unpackExponent Format.binary64 b).toNat = m.shift + 1 := by
    rw [Binary64.toNat_unpackExponent, bits]
    omega
  have mantissa : (@unpackMantissa Format.binary64 b).toNat = m.mantissa - 2 ^ 52 := by
    rw [Binary64.toNat_unpackMantissa, bits]
    omega
  have sign : @unpackSign Format.binary64 b = 0#1 := by
    apply BitVec.eq_of_toNat_eq
    rw [Binary64.toNat_unpackSign, bits]
    show _ = 0
    omega
  have leading : (1#1 ++ @unpackMantissa Format.binary64 b).toNat = m.mantissa := by
    have short : (@unpackMantissa Format.binary64 b).toNat < 2 ^ 52 := BitVec.isLt _
    rw [BitVec.toNat_append, ← Nat.shiftLeft_add_eq_or_of_lt short, mantissa]
    show 1 <<< 52 + (m.mantissa - 2 ^ 52) = m.mantissa
    omega
  have field (c : BitVec 11) (other : c.toNat ≠ m.shift + 1) : ¬@unpackExponent
      Format.binary64 b = c := by
    rintro rfl
    exact other exponent
  rw [UnpackedFloat.unpack]
  dsimp only
  rw [if_neg (field _ ?_), if_neg (field _ ?_)]
  · simp only [leading, exponent, sign]
    congr 1
    show ((m.shift + 1 : ℕ) : ℤ) - (1023 + 52) = _
    omega
  · show 0 ≠ m.shift + 1
    omega
  · show 2047 ≠ m.shift + 1
    omega

theorem value_ofBits_code (canonical : m.Canonical) (full : 2 ^ 52 ≤ m.mantissa) :
    Binary64.value (Float.ofBits (UInt64.ofNat m.code)) =
      Binary64.Value.ofRat (m.mantissa * 2 ^ ((m.shift : ℤ) - 1074)) := by
  have small := canonical.small
  have bound := canonical.bound
  have code : m.code = m.shift * 2 ^ 52 + m.mantissa := by rw [Magnitude.code, Nat.shiftLeft_eq]
  have bits : (UInt64.ofNat m.code).toBitVec.toNat = m.shift * 2 ^ 52 + m.mantissa :=
    (UInt64.toNat_ofNat_of_lt' (by rw [code, UInt64.size]; omega)).trans code
  show Binary64.valueOf (Float.Model.pack
    (UnpackedFloat.unpack Format.binary64 (UInt64.ofNat m.code).toBitVec)).unpack = _
  rw [unpack_code canonical full bits,
    Binary64.unpack_pack .positive canonical.pos ⟨small, by omega, fun _ => full⟩
    (by omega)]
  rfl

theorem holds_units (canonical : m.Canonical) {den : ℕ} (pos : 0 < den) :
    m.interval.holds (4 * m.units * den) den := by
  have gap : 0 < 1 <<< m.shift := by
    rw [Nat.one_shiftLeft]
    positivity
  have units : 0 < m.units := by
    have := canonical.pos
    rw [Magnitude.units, Nat.shiftLeft_eq]
    positivity
  have lower : m.interval.lower < 4 * m.units := by
    rw [Magnitude.interval]
    dsimp only
    split_ifs <;> omega
  have upper : 4 * m.units < m.interval.upper := by
    rw [Magnitude.interval]
    dsimp only
    omega
  have lower := Nat.mul_lt_mul_of_pos_right lower pos
  have upper := Nat.mul_lt_mul_of_pos_right upper pos
  rw [Interval.holds]
  split_ifs <;> simp only [Bool.and_eq_true, decide_eq_true_eq] <;> omega

/-- Half of a whole number is not rounded, if it is not too large. -/
theorem value_nearest_two {n : ℕ} (small : n < 2 ^ 53) :
    Binary64.value (nearest n 2) = Binary64.Value.ofRat (n / 2) := by
  obtain rfl | pos := n.eq_zero_or_pos
  · have zero : nearest 0 2 = 0 := by decide +kernel
    rw [zero, Nat.cast_zero, zero_div]
    rfl
  · have bits : n.log2 < 53 := (Nat.log2_lt pos.ne').2 small
    obtain ⟨low, high⟩ := (Nat.log2_eq_iff pos.ne').1 rfl
    generalize n.log2 = k at bits low high
    -- the number is shifted until its mantissa is full
    generalize same : (⟨n * 2 ^ (52 - k), 1021 + k⟩ : Magnitude) = m
    have mantissa : m.mantissa = n * 2 ^ (52 - k) := by rw [← same]
    have shift : m.shift = 1021 + k := by rw [← same]
    have full : 2 ^ 52 ≤ m.mantissa := by
      calc 2 ^ 52 = 2 ^ k * 2 ^ (52 - k) := by rw [← pow_add]; congr 1; omega
        _ ≤ n * 2 ^ (52 - k) := Nat.mul_le_mul_right _ low
        _ = m.mantissa := mantissa.symm
    have short : m.mantissa < 2 ^ 53 := by
      calc m.mantissa = n * 2 ^ (52 - k) := mantissa
        _ < 2 ^ (k + 1) * 2 ^ (52 - k) := Nat.mul_lt_mul_of_pos_right high (Nat.two_pow_pos _)
        _ = 2 ^ 53 := by rw [← pow_add]; congr 1; omega
    have canonical : m.Canonical := ⟨by omega, short, fun _ => full, by omega⟩
    have units : 4 * (n * unitsPerOne) = 4 * m.units * 2 := by
      have parts : unitsPerOne = 2 ^ (52 - k) * 2 ^ (1021 + k) * 2 := by
        rw [unitsPerOne, Nat.one_shiftLeft, ← pow_add, ← pow_succ]
        congr 1
        omega
      rw [Magnitude.units, mantissa, shift, Nat.shiftLeft_eq, parts]
      simp only [Nat.mul_assoc]
    rw [canonical.nearest_eq two_pos (units ▸ holds_units canonical two_pos),
      value_ofBits_code canonical full]
    have half : (2 : ℚ) ^ (52 - k) * 2 ^ ((m.shift : ℤ) - 1074) = 2⁻¹ := by
      rw [← zpow_natCast, ← zpow_add₀ two_ne_zero, ← zpow_neg_one]
      congr 1
      omega
    rw [mantissa, Nat.cast_mul, Nat.cast_pow, Nat.cast_two, mul_assoc, half, div_eq_mul_inv]

end CellularAutomaton.Numeral
