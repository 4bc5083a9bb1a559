import CellularAutomaton.Proofs.Numeral.Bits
import CellularAutomaton.Proofs.Unsigned

/-!
# The values of doubles

A double stands for a rational number or for one of the infinities. Mantissas and exponents that are
stored are in a normal form, in which the larger exponent belongs to the larger number. So doubles
are compared as the numbers that they stand for.
-/

open Float.Model Float.Model.UnpackedFloat

namespace CellularAutomaton.Binary64

/-- The least exponent is taken unless the mantissa has 53 bits. -/
structure Normal (m : ℕ) (e : ℤ) : Prop where
  small : m < 2 ^ 53
  least : -1074 ≤ e
  full : -1074 < e → 2 ^ 52 ≤ m

variable {m m' : ℕ} {e e' : ℤ}

/-! ## Comparing mantissas and exponents -/

theorem units_le_of_lt (lt : e < e') : (2 ^ 53 * 2 ^ e : ℚ) ≤ 2 ^ 52 * 2 ^ e' := by
  have next : (2 : ℚ) ^ (e + 1) ≤ 2 ^ e' := zpow_le_zpow_right₀ (by norm_num) lt
  rw [zpow_add_one₀ two_ne_zero] at next
  linarith

theorem Normal.lt_of_lt (normal : Normal m e) (normal' : Normal m' e') (lt : e < e') :
    (m * 2 ^ e : ℚ) < m' * 2 ^ e' := by
  have small : (m : ℚ) < 2 ^ 53 := mod_cast normal.small
  have full : (2 ^ 52 : ℚ) ≤ m' := mod_cast normal'.full (lt_of_le_of_lt normal.least lt)
  calc (m * 2 ^ e : ℚ) < 2 ^ 53 * 2 ^ e := by gcongr
    _ ≤ 2 ^ 52 * 2 ^ e' := units_le_of_lt lt
    _ ≤ m' * 2 ^ e' := by gcongr

theorem Normal.compare_eq (normal : Normal m e) (normal' : Normal m' e') :
    (compare e e').then (compare m m') = compare (m * 2 ^ e : ℚ) (m' * 2 ^ e') := by
  obtain lt | rfl | gt := lt_trichotomy e e'
  · rw [compare_lt_iff_lt.2 lt, compare_lt_iff_lt.2 (normal.lt_of_lt normal' lt), Ordering.lt_then]
  · have pos : (0 : ℚ) < 2 ^ e := by positivity
    rw [compare_eq_iff_eq.2 rfl, Ordering.eq_then]
    obtain lt | rfl | gt := lt_trichotomy m m'
    · rw [compare_lt_iff_lt.2 lt, compare_lt_iff_lt.2 (mul_lt_mul_of_pos_right (mod_cast lt) pos)]
    · rw [compare_eq_iff_eq.2 rfl, compare_eq_iff_eq.2 rfl]
    · rw [compare_gt_iff_gt.2 gt, compare_gt_iff_gt.2 (mul_lt_mul_of_pos_right (mod_cast gt) pos)]
  · rw [compare_gt_iff_gt.2 gt, compare_gt_iff_gt.2 (normal'.lt_of_lt normal gt), Ordering.gt_then]

/-! ## Values -/

/-- Rational numbers and two infinities. -/
abbrev Value := WithBot (WithTop ℚ)

def Value.ofRat (q : ℚ) : Value := ((q : WithTop ℚ) : Value)

namespace Value

variable {p q : ℚ}

@[simp] theorem ofRat_le_ofRat : ofRat p ≤ ofRat q ↔ p ≤ q :=
  WithBot.coe_le_coe.trans WithTop.coe_le_coe

@[simp] theorem ofRat_lt_ofRat : ofRat p < ofRat q ↔ p < q :=
  WithBot.coe_lt_coe.trans WithTop.coe_lt_coe

@[simp] theorem compare_ofRat : compare (ofRat p) (ofRat q) = compare p q := by
  obtain lt | rfl | gt := lt_trichotomy p q
  · rw [compare_lt_iff_lt.2 lt, compare_lt_iff_lt.2 (ofRat_lt_ofRat.2 lt)]
  · rw [compare_eq_iff_eq.2 rfl, compare_eq_iff_eq.2 rfl]
  · rw [compare_gt_iff_gt.2 gt, compare_gt_iff_gt.2 (ofRat_lt_ofRat.2 gt)]

end Value

open Value

/-- The number that is meant, or its infinity; the value of what is no number does not matter. -/
def valueOf : UnpackedFloat → Value
  | .infinity .positive => ⊤
  | .infinity .negative => ⊥
  | .notANumber => ⊥
  | .zero _ => ofRat 0
  | .finite .positive m e _ => ofRat (m * 2 ^ e)
  | .finite .negative m e _ => ofRat (-(m * 2 ^ e))

def value (x : Float) : Value := valueOf x.toModel.unpack

/-- Mantissa and exponent of a finite number other than zero are in their normal form. -/
def IsNormal : UnpackedFloat → Prop
  | .finite _ m e _ => Normal m e
  | _ => True

theorem compare_neg (p q : ℚ) : compare (-p) (-q) = (compare p q).swap := by
  obtain lt | rfl | gt := lt_trichotomy p q
  · rw [compare_lt_iff_lt.2 lt, compare_gt_iff_gt.2 (neg_lt_neg lt)]
    rfl
  · rw [compare_eq_iff_eq.2 rfl, compare_eq_iff_eq.2 rfl]
    rfl
  · rw [compare_gt_iff_gt.2 gt, compare_lt_iff_lt.2 (neg_lt_neg gt)]
    rfl

theorem compare_eq_compare_valueOf {u v : UnpackedFloat} (normal : IsNormal u)
    (normal' : IsNormal v) (number : u.isNaN = false) (number' : v.isNaN = false) :
    u.compare v = some (compare (valueOf u) (valueOf v)) := by
  have amount {m : ℕ} (pos : 0 < m) (e : ℤ) : (0 : ℚ) < m * 2 ^ e := by positivity
  cases u with
  | notANumber => cases number
  | infinity s =>
    cases v with
    | notANumber => cases number'
    | infinity s' => cases s <;> cases s' <;> rfl
    | zero s' => cases s <;> rfl
    | finite s' m' e' pos' => cases s <;> cases s' <;> rfl
  | zero s =>
    cases v with
    | notANumber => cases number'
    | infinity s' => cases s' <;> rfl
    | zero s' => rfl
    | finite s' m' e' pos' =>
      have above := amount pos' e'
      cases s' with
      | positive => exact congrArg some (compare_lt_iff_lt.2 (ofRat_lt_ofRat.2 above)).symm
      | negative =>
        exact congrArg some (compare_gt_iff_gt.2 (ofRat_lt_ofRat.2 (neg_lt_zero.2 above))).symm
  | finite s m e pos =>
    have above := amount pos e
    cases v with
    | notANumber => cases number'
    | infinity s' => cases s <;> cases s' <;> rfl
    | zero s' =>
      cases s with
      | positive => exact congrArg some (compare_gt_iff_gt.2 (ofRat_lt_ofRat.2 above)).symm
      | negative =>
        exact congrArg some (compare_lt_iff_lt.2 (ofRat_lt_ofRat.2 (neg_lt_zero.2 above))).symm
    | finite s' m' e' pos' =>
      have above' := amount pos' e'
      have same := Normal.compare_eq (show Normal m e from normal) (show Normal m' e' from normal')
      cases s <;> cases s'
      case positive.positive => exact congrArg some (same.trans compare_ofRat.symm)
      case negative.negative =>
        have swapped := (congrArg Ordering.swap same).trans (compare_neg _ _).symm
        exact congrArg some (swapped.trans compare_ofRat.symm)
      case positive.negative =>
        exact congrArg some (compare_gt_iff_gt.2
          (ofRat_lt_ofRat.2 ((neg_lt_zero.2 above').trans above))).symm
      case negative.positive =>
        exact congrArg some (compare_lt_iff_lt.2
          (ofRat_lt_ofRat.2 ((neg_lt_zero.2 above).trans above'))).symm

/-! ## Stored doubles -/

/-- What is unpacked from bits is in its normal form, and not too large. -/
theorem normal_of_unpack {b : BitVec 64} {s : Sign} {pos : 0 < m}
    (unpacked : UnpackedFloat.unpack Format.binary64 b = .finite s m e pos) :
    Normal m e ∧ e ≤ 971 := by
  have exponent : (@unpackExponent Format.binary64 b).toNat < 2 ^ 11 := BitVec.isLt _
  have mantissa : (@unpackMantissa Format.binary64 b).toNat < 2 ^ 52 := BitVec.isLt _
  have bias : (Format.binary64.exponentBias : ℤ) = 1023 := rfl
  have bits : (Format.binary64.mantissaBitsWithoutImplicit : ℤ) = 52 := rfl
  rw [UnpackedFloat.unpack] at unpacked
  dsimp only at unpacked
  split_ifs at unpacked with top whole subnormal zero
  · obtain ⟨-, rfl, rfl⟩ := UnpackedFloat.finite.inj unpacked
    have field : (@unpackExponent Format.binary64 b).toNat = 0 := by rw [subnormal]; rfl
    refine ⟨⟨?_, ?_, ?_⟩, ?_⟩ <;> omega
  · obtain ⟨-, rfl, rfl⟩ := UnpackedFloat.finite.inj unpacked
    have below : (@unpackExponent Format.binary64 b).toNat ≠ 2047 :=
      fun full => top (BitVec.eq_of_toNat_eq full)
    have above : (@unpackExponent Format.binary64 b).toNat ≠ 0 :=
      fun none => subnormal (BitVec.eq_of_toNat_eq none)
    have leading : (1#1 ++ @unpackMantissa Format.binary64 b).toNat =
        2 ^ 52 + (@unpackMantissa Format.binary64 b).toNat := by
      rw [BitVec.toNat_append]
      exact (Nat.shiftLeft_add_eq_or_of_lt mantissa 1).symm
    refine ⟨⟨?_, ?_, ?_⟩, ?_⟩ <;> omega

theorem pack_subnormal (s : Sign) (pos : 0 < m) (few : m < 2 ^ 52) :
    UnpackedFloat.pack Format.binary64 (.finite s m (-1074) pos) =
      packComponents Format.binary64 s 0#11 (BitVec.ofNat 52 m) := by
  have short : m.log2 + 1 ≠ Format.binary64.mantissaBits := by
    have : m.log2 < 52 := (Nat.log2_lt pos.ne').2 few
    show m.log2 + 1 ≠ 53
    omega
  rw [UnpackedFloat.pack]
  simp only [if_neg short]
  rfl

theorem unpack_pack_subnormal (s : Sign) (pos : 0 < m) (few : m < 2 ^ 52) :
    (Float.Model.pack (.finite s m (-1074) pos)).unpack = .finite s m (-1074) pos := by
  have stored : (BitVec.ofNat 52 m).toNat = m := by
    rw [BitVec.toNat_ofNat]
    exact Nat.mod_eq_of_lt few
  have some : BitVec.ofNat 52 m ≠ 0#52 := fun none => by
    rw [none] at stored
    exact pos.ne stored
  rw [Float.Model.unpack, Float.Model.pack]
  simp only [pack_subnormal s pos few, UnpackedFloat.unpack, unpackMantissa_packComponents,
    unpackExponent_packComponents, unpackSign_packComponents, Sign.ofBitVec_toBitVec]
  rw [if_neg (by decide), if_pos trivial, dif_neg some]
  simp only [stored]
  rfl

theorem unpack_pack (s : Sign) (pos : 0 < m) (normal : Normal m e) (bound : e ≤ 971) :
    (Float.Model.pack (.finite s m e pos)).unpack = .finite s m e pos := by
  by_cases full : 2 ^ 52 ≤ m
  · have small := normal.small
    exact unpack_pack_normal s pos ((Nat.log2_eq_iff pos.ne').2 ⟨full, by omega⟩) normal.least bound
  · obtain rfl : e = -1074 := by
      have least := normal.least
      have := normal.full
      omega
    exact unpack_pack_subnormal s pos (Nat.lt_of_not_le full)

/-- A larger one is stored as an infinity. -/
theorem unpack_pack_of_lt (s : Sign) (pos : 0 < m) (large : 971 < e) :
    (Float.Model.pack (.finite s m e pos)).unpack = .infinity s := by
  have packed : UnpackedFloat.pack Format.binary64 (.finite s m e pos) =
      packedInfinity Format.binary64 s := by
    have full : 2 ^ Format.binary64.exponentBits ≤
        (e + Format.binary64.exponentBias + Format.binary64.mantissaBitsWithoutImplicit).toNat +
          1 := by
      show 2048 ≤ (e + 1023 + 52).toNat + 1
      omega
    rw [UnpackedFloat.pack]
    simp only [if_pos full]
  rw [Float.Model.unpack, Float.Model.pack]
  simp only [packed, packedInfinity, UnpackedFloat.unpack, unpackMantissa_packComponents,
    unpackExponent_packComponents, unpackSign_packComponents, Sign.ofBitVec_toBitVec]
  rfl

theorem isNormal_unpack (x : Float) : IsNormal x.toModel.unpack := by
  cases unpacked : x.toModel.unpack with
  | finite s m e pos => exact (normal_of_unpack unpacked).1
  | _ => trivial

/-! ## The order of doubles -/

variable {x y z : Float}

theorem compare_of_number (number : x.isNaN = false) (number' : y.isNaN = false) :
    x.toModel.unpack.compare y.toModel.unpack = some (compare (value x) (value y)) :=
  compare_eq_compare_valueOf (isNormal_unpack x) (isNormal_unpack y) number number'

/-- What is no number cannot be compared. -/
theorem number_of_compare {o : Ordering}
    (compared : x.toModel.unpack.compare y.toModel.unpack = some o) :
    x.isNaN = false ∧ y.isNaN = false := by
  show x.toModel.unpack.isNaN = false ∧ y.toModel.unpack.isNaN = false
  generalize x.toModel.unpack = u at compared
  generalize y.toModel.unpack = v at compared
  constructor
  · cases u with
    | notANumber => cases compared
    | _ => rfl
  · cases v with
    | notANumber => cases u <;> cases compared
    | _ => rfl

theorem le_iff_value : x ≤ y ↔ x.isNaN = false ∧ y.isNaN = false ∧ value x ≤ value y := by
  rw [le_iff, UnpackedFloat.le]
  constructor
  · intro le
    obtain ⟨o, compared, le⟩ := (Option.any_eq_true _ _).1 le
    obtain ⟨number, number'⟩ := number_of_compare compared
    rw [compare_of_number number number'] at compared
    rw [← Option.some.inj compared] at le
    exact ⟨number, number', compare_le_iff_le.1 (Ordering.isLE_iff_ne_gt.1 le)⟩
  · rintro ⟨number, number', le⟩
    rw [compare_of_number number number']
    exact Ordering.isLE_iff_ne_gt.2 (compare_le_iff_le.2 le)

theorem lt_iff_value : x < y ↔ x.isNaN = false ∧ y.isNaN = false ∧ value x < value y := by
  rw [lt_iff, UnpackedFloat.lt]
  constructor
  · intro lt
    have compared := eq_of_beq lt
    obtain ⟨number, number'⟩ := number_of_compare compared
    rw [compare_of_number number number'] at compared
    exact ⟨number, number', compare_lt_iff_lt.1 (Option.some.inj compared)⟩
  · rintro ⟨number, number', lt⟩
    rw [compare_of_number number number', compare_lt_iff_lt.2 lt]
    rfl

theorem le_self (number : x.isNaN = false) : x ≤ x := le_iff_value.2 ⟨number, number, le_rfl⟩

theorem le_trans (le : x ≤ y) (le' : y ≤ z) : x ≤ z := by
  rw [le_iff_value] at *
  exact ⟨le.1, le'.2.1, le.2.2.trans le'.2.2⟩

theorem lt_of_le_of_lt (le : x ≤ y) (lt : y < z) : x < z := by
  rw [le_iff_value] at le
  rw [lt_iff_value] at *
  exact ⟨le.1, lt.2.1, le.2.2.trans_lt lt.2.2⟩

theorem not_le (number : y.isNaN = false) : ¬x ≤ y ↔ x.isNaN = true ∨ y < x := by
  rw [le_iff_value, lt_iff_value]
  cases x.isNaN <;> simp only [number] <;> simp

end CellularAutomaton.Binary64
