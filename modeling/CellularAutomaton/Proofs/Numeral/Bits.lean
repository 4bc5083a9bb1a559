import CellularAutomaton.Proofs.Binary64
import CellularAutomaton.Proofs.Numeral.Nearest

/-!
# The bits of a double

A finite double is the sign, the exponent and the mantissa in its bits. Its magnitude is canonical,
and the bits below the sign are the code of the magnitude.
-/

open Float.Model Float.Model.UnpackedFloat

namespace CellularAutomaton.Binary64

theorem toNat_unpackExponent (b : BitVec 64) :
    (@unpackExponent Format.binary64 b).toNat = b.toNat / 2 ^ 52 % 2 ^ 11 := by
  simp [unpackExponent, BitVec.extractLsb, Nat.shiftRight_eq_div_pow]

theorem toNat_unpackMantissa (b : BitVec 64) :
    (@unpackMantissa Format.binary64 b).toNat = b.toNat % 2 ^ 52 := by
  simp [unpackMantissa, BitVec.extractLsb]

theorem toNat_unpackSign (b : BitVec 64) :
    (@unpackSign Format.binary64 b).toNat = b.toNat / 2 ^ 63 % 2 := by
  simp [unpackSign, BitVec.extractLsb, Nat.shiftRight_eq_div_pow]

theorem neg_unpack {b c : BitVec 64} (negative : b.toNat = 2 ^ 63 + c.toNat) :
    (UnpackedFloat.unpack Format.binary64 c).neg = UnpackedFloat.unpack Format.binary64 b := by
  have bound : b.toNat < 2 ^ 64 := b.isLt
  have exponent : @unpackExponent Format.binary64 c = @unpackExponent Format.binary64 b := by
    apply BitVec.eq_of_toNat_eq
    rw [toNat_unpackExponent, toNat_unpackExponent]
    omega
  have mantissa : @unpackMantissa Format.binary64 c = @unpackMantissa Format.binary64 b := by
    apply BitVec.eq_of_toNat_eq
    rw [toNat_unpackMantissa, toNat_unpackMantissa]
    omega
  have positive : @unpackSign Format.binary64 c = 0#1 := by
    apply BitVec.eq_of_toNat_eq
    rw [toNat_unpackSign]
    show _ = 0
    omega
  have negative : @unpackSign Format.binary64 b = 1#1 := by
    apply BitVec.eq_of_toNat_eq
    rw [toNat_unpackSign]
    show _ = 1
    omega
  simp only [UnpackedFloat.unpack, exponent, mantissa, positive, negative]
  split_ifs <;> rfl

theorem isFinite_neg (f : UnpackedFloat) : f.neg.isFinite = f.isFinite := by cases f <;> rfl

theorem pack_unpack_of_isFinite {b : BitVec 64}
    (finite : (UnpackedFloat.unpack Format.binary64 b).isFinite) :
    UnpackedFloat.pack Format.binary64 (UnpackedFloat.unpack Format.binary64 b) = b := by
  refine pack_unpack_of_valid ⟨?_⟩
  intro exponent mantissa
  rw [UnpackedFloat.unpack] at finite
  simp only [if_pos exponent, if_neg mantissa] at finite
  cases finite

end CellularAutomaton.Binary64

namespace CellularAutomaton.Numeral

theorem neg_ofBits {x : Float} (finite : x.isFinite) (negative : 2 ^ 63 ≤ x.toBits.toNat) :
    -Float.ofBits (UInt64.ofNat (x.toBits.toNat % 2 ^ 63)) = x := by
  obtain ⟨bits, valid⟩ := x
  have bound : bits.toNat < 2 ^ 64 := bits.toNat_lt
  have below : (UInt64.ofNat (bits.toNat % 2 ^ 63)).toNat = bits.toNat % 2 ^ 63 :=
    UInt64.toNat_ofNat_of_lt' (by rw [UInt64.size]; omega)
  have sign : bits.toBitVec.toNat =
      2 ^ 63 + (UInt64.ofNat (bits.toNat % 2 ^ 63)).toBitVec.toNat := by
    show bits.toNat = 2 ^ 63 + (UInt64.ofNat (bits.toNat % 2 ^ 63)).toNat
    have negative : 2 ^ 63 ≤ bits.toNat := negative
    omega
  have unpacked := Binary64.neg_unpack sign
  have finite : (UnpackedFloat.unpack Format.binary64 bits.toBitVec).isFinite = true := finite
  rw [← unpacked, Binary64.isFinite_neg] at finite
  show Float.ofModel ⟨UInt64.ofBitVec
    (UnpackedFloat.pack Format.binary64 (UnpackedFloat.unpack Format.binary64
    (UnpackedFloat.pack Format.binary64 (UnpackedFloat.unpack Format.binary64
      (UInt64.ofNat (bits.toNat % 2 ^ 63)).toBitVec))).neg), _⟩ = _
  congr
  rw [Binary64.pack_unpack_of_isFinite finite, unpacked, pack_unpack_of_valid valid]

theorem field_eq (b : ℕ) : (b % (1 <<< 63)) >>> 52 = b / 2 ^ 52 % 2 ^ 11 := by
  rw [Nat.one_shiftLeft, Nat.shiftRight_eq_div_pow]
  omega

theorem field_lt {x : Float} (finite : x.isFinite) :
    (x.toBits.toNat % (1 <<< 63)) >>> 52 < 2047 := by
  have bound : x.toBits.toNat / 2 ^ 52 % 2 ^ 11 < 2 ^ 11 := Nat.mod_lt _ (by decide)
  rw [field_eq]
  by_contra full
  have exponent : @unpackExponent Format.binary64 x.toBits.toBitVec = -1#11 := by
    apply BitVec.eq_of_toNat_eq
    rw [Binary64.toNat_unpackExponent]
    show x.toBits.toNat / 2 ^ 52 % 2 ^ 11 = 2047
    omega
  have unpacked : (UnpackedFloat.unpack Format.binary64 x.toBits.toBitVec).isFinite = true := finite
  rw [UnpackedFloat.unpack] at unpacked
  dsimp only at unpacked
  rw [if_pos exponent] at unpacked
  split_ifs at unpacked <;> cases unpacked

theorem code_magnitude (x : Float) : (magnitude x).code = x.toBits.toNat % 2 ^ 63 := by
  rw [magnitude, Nat.one_shiftLeft, Nat.one_shiftLeft, Nat.shiftRight_eq_div_pow]
  split_ifs with subnormal
  · rw [Magnitude.code, Nat.shiftLeft_eq]
    dsimp only
    omega
  · rw [Magnitude.code, Nat.shiftLeft_eq]
    dsimp only
    omega

theorem canonical_magnitude {x : Float} (finite : x.isFinite) (some : (magnitude x).mantissa ≠ 0) :
    (magnitude x).Canonical := by
  have bound := field_lt finite
  rw [magnitude] at some ⊢
  rw [Nat.one_shiftLeft, Nat.shiftRight_eq_div_pow] at bound
  rw [Nat.one_shiftLeft, Nat.one_shiftLeft, Nat.shiftRight_eq_div_pow] at some ⊢
  split_ifs at some ⊢ with subnormal
  · refine ⟨Nat.pos_of_ne_zero some, ?_, ?_, Nat.zero_le _⟩
    · dsimp only
      omega
    · intro shifted
      exact absurd shifted (lt_irrefl 0)
  · refine ⟨?_, ?_, fun _ => ?_, ?_⟩ <;> dsimp only <;> omega

end CellularAutomaton.Numeral
