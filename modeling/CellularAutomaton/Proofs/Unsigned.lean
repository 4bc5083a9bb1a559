import CellularAutomaton.Proofs.Binary64

/-!
# Doubles without a sign

A double without a sign is infinite, zero or positive. A sum of doubles that are not negative has no
sign if its first summand has none, however it is rounded, and a zero does not change it. The order
tells numbers without a sign from all others but from the zero with a sign.
-/

open Float.Model Float.Model.UnpackedFloat

namespace CellularAutomaton.Binary64

/-! ## Packing and unpacking -/

/-- Neither a sign nor no number at all. -/
@[mk_iff]
inductive Unsigned : UnpackedFloat → Prop
  | infinity : Unsigned (.infinity .positive)
  | zero : Unsigned (.zero .positive)
  | finite {m : ℕ} {e : ℤ} (pos : 0 < m) : Unsigned (.finite .positive m e pos)

theorem unsigned_unpack {e : BitVec 11} {m : BitVec 52} (number : e = -1#11 → m = 0#52) :
    Unsigned (UnpackedFloat.unpack Format.binary64
      (packComponents Format.binary64 .positive e m)) := by
  simp only [UnpackedFloat.unpack, unpackMantissa_packComponents, unpackExponent_packComponents,
    unpackSign_packComponents, Sign.ofBitVec_toBitVec]
  split_ifs with top whole
  · exact .infinity
  · exact absurd (number top) whole
  · exact .zero
  · exact .finite _
  · exact .finite _

theorem Unsigned.pack {u : UnpackedFloat} (unsigned : Unsigned u) :
    Unsigned (Float.Model.pack u).unpack := by
  show Unsigned (UnpackedFloat.unpack Format.binary64 (UnpackedFloat.pack Format.binary64 u))
  cases unsigned with
  | infinity => exact unsigned_unpack fun _ => rfl
  | zero => exact unsigned_unpack fun _ => rfl
  | @finite m e pos =>
    rw [UnpackedFloat.pack]
    dsimp only
    split_ifs with large
    · exact unsigned_unpack fun _ => rfl
    · refine unsigned_unpack fun top => absurd (congrArg BitVec.toNat top) ?_
      rw [BitVec.toNat_ofNat]
      show _ % 2 ^ 11 ≠ 2047
      have small : ¬2048 ≤ _ := large
      omega
    · exact unsigned_unpack fun top => absurd top (by decide)

theorem unpack_inj {x y : Float} : x.toModel.unpack = y.toModel.unpack ↔ x = y := by
  refine ⟨fun same => ?_, fun same => by rw [same]⟩
  have bits := (unpack_inj_of_valid x.toModel.valid y.toModel.valid).1 same
  exact Float.toBits_inj.1 (UInt64.toBitVec_inj.1 bits)

theorem eq_of_pack {x : Float} {u : UnpackedFloat} (unpacked : x.toModel.unpack = u) :
    x = .ofModel (.pack u) := by
  obtain ⟨⟨bits, valid⟩⟩ := x
  obtain rfl := unpacked
  refine congrArg Float.ofModel (Float.Model.mk.injEq _ _ _ _ ▸ ?_)
  exact UInt64.toBitVec_inj.1 (pack_unpack_of_valid valid).symm

/-! ## Order -/

theorem nonneg_iff {x : Float} : 0 ≤ x ↔ Unsigned x.toModel.unpack ∨ x = -0.0 := by
  have zero : (0 : Float).toModel.unpack = .zero .positive := rfl
  have negative : (-0.0 : Float).toModel.unpack = .zero .negative := rfl
  rw [le_iff, zero, ← unpack_inj, negative]
  cases x.toModel.unpack with
  | notANumber => simp [UnpackedFloat.le, UnpackedFloat.compare, unsigned_iff]
  | infinity s => cases s <;> simp [UnpackedFloat.le, UnpackedFloat.compare, unsigned_iff]
  | zero s => cases s <;> simp [UnpackedFloat.le, UnpackedFloat.compare, unsigned_iff]
  | finite s m e pos =>
    cases s <;> simp [UnpackedFloat.le, UnpackedFloat.compare, unsigned_iff, pos]

theorem pos_iff {x : Float} : 0 < x ↔ Unsigned x.toModel.unpack ∧ x ≠ 0 := by
  have zero : (0 : Float).toModel.unpack = .zero .positive := rfl
  rw [lt_iff, zero, ne_eq, ← unpack_inj, zero]
  cases x.toModel.unpack with
  | notANumber => simp [UnpackedFloat.lt, UnpackedFloat.compare, unsigned_iff]
  | infinity s => cases s <;> simp [UnpackedFloat.lt, UnpackedFloat.compare, unsigned_iff]
  | zero s => cases s <;> simp [UnpackedFloat.lt, UnpackedFloat.compare, unsigned_iff]
  | finite s m e pos =>
    cases s <;> simp [UnpackedFloat.lt, UnpackedFloat.compare, unsigned_iff, pos]

theorem beq_zero_iff {x : Float} : (x == 0) = true ↔ ∃ s, x.toModel.unpack = .zero s := by
  show x.toModel.unpack.beq (.zero .positive) = true ↔ _
  cases x.toModel.unpack with
  | notANumber => simp [UnpackedFloat.beq, UnpackedFloat.compare]
  | infinity s => cases s <;> simp [UnpackedFloat.beq, UnpackedFloat.compare]
  | zero s => simp [UnpackedFloat.beq, UnpackedFloat.compare]
  | finite s m e pos => cases s <;> simp [UnpackedFloat.beq, UnpackedFloat.compare]

/-! ## Sums -/

theorem unsigned_roundWithAccuracy (m : ℕ) (e : ℤ) (a : Accuracy) :
    Unsigned (roundWithAccuracy Format.binary64 .positive m e a) := by
  unfold roundWithAccuracy
  dsimp only
  split_ifs
  · exact .zero
  · exact .finite _

theorem unsigned_normalize {n : ℤ} (pos : 0 < n) (e : ℤ) (s : Sign) :
    Unsigned (UnpackedFloat.normalize Format.binary64 n e s) := by
  rw [UnpackedFloat.normalize, compare_gt_iff_gt.2 pos]
  exact unsigned_roundWithAccuracy _ _ _

theorem Unsigned.add {x y : Float} (unsigned : Unsigned x.toModel.unpack) (nonneg : 0 ≤ y) :
    Unsigned (x + y).toModel.unpack := by
  refine Unsigned.pack (u := UnpackedFloat.add Format.binary64 x.toModel.unpack y.toModel.unpack) ?_
  obtain unsigned' | rfl := nonneg_iff.1 nonneg
  · generalize x.toModel.unpack = u at unsigned
    generalize y.toModel.unpack = v at unsigned'
    cases unsigned with
    | infinity => cases unsigned' <;> exact .infinity
    | zero => cases unsigned' <;> constructor
    | @finite m e pos =>
      cases unsigned' with
      | infinity => exact .infinity
      | zero => exact .finite pos
      | @finite m' e' pos' =>
        refine unsigned_normalize ?_ _ _
        simp only [Sign.apply, Nat.shiftLeft_eq]
        positivity
  · show Unsigned (UnpackedFloat.add Format.binary64 x.toModel.unpack (.zero .negative))
    generalize x.toModel.unpack = u at unsigned
    cases unsigned <;> constructor

theorem add_eq_of_unpack {x y z : Float}
    (whole : UnpackedFloat.add Format.binary64 x.toModel.unpack y.toModel.unpack =
      z.toModel.unpack) : x + y = z := by
  show Float.ofModel (.pack (UnpackedFloat.add Format.binary64 x.toModel.unpack y.toModel.unpack)) =
    z
  rw [whole]
  exact (eq_of_pack rfl).symm

theorem Unsigned.add_zero {x y : Float} (unsigned : Unsigned x.toModel.unpack)
    (zero : (y == 0) = true) :
    x + y = x := by
  obtain ⟨s, zero⟩ := beq_zero_iff.1 zero
  apply add_eq_of_unpack
  rw [zero]
  generalize x.toModel.unpack = u at unsigned
  cases unsigned with
  | infinity => rfl
  | zero => cases s <;> rfl
  | finite pos => rfl

theorem Unsigned.zero_add {x y : Float} (unsigned : Unsigned y.toModel.unpack)
    (zero : (x == 0) = true) :
    x + y = y := by
  obtain ⟨s, zero⟩ := beq_zero_iff.1 zero
  apply add_eq_of_unpack
  rw [zero]
  generalize y.toModel.unpack = u at unsigned
  cases unsigned with
  | infinity => rfl
  | zero => cases s <;> rfl
  | finite pos => rfl

/-! ## Quotients -/

theorem exists_unpack_eq_finite {t : Float} (pos : 0 < t) (finite : t.isFinite) :
    ∃ m e, ∃ pos' : 0 < m, t.toModel.unpack = .finite .positive m e pos' := by
  obtain ⟨unsigned, nonzero⟩ := pos_iff.1 pos
  have finite' : t.toModel.unpack.isFinite = true := finite
  rw [ne_eq, ← unpack_inj] at nonzero
  generalize t.toModel.unpack = u at unsigned nonzero finite'
  cases unsigned with
  | infinity => cases finite'
  | zero => exact absurd rfl nonzero
  | finite pos' => exact ⟨_, _, pos', rfl⟩

theorem zero_div {t : Float} (pos : 0 < t) (finite : t.isFinite) : 0 / t = 0 := by
  obtain ⟨m, e, pos', unpacked⟩ := exists_unpack_eq_finite pos finite
  show Float.ofModel (.pack (UnpackedFloat.div Format.binary64 (.zero .positive)
    t.toModel.unpack)) = 0
  rw [unpacked]
  rfl

/-- The quotient of a mantissa and itself is taken with 53 binary places, and nothing is left
over. -/
theorem divCore_self {m : ℕ} (pos : 0 < m) (e : ℤ) :
    divCore Format.binary64 m e m e = (2 ^ 53, -53, .exact) := by
  have target : min (e - e) (Format.binary64.targetExponent
      (totalExponent m e - totalExponent m e)) = -53 := by
    simp [Format.targetExponent, Format.minExponent, Format.mantissaBits]
  have amount : (e - e - -53).toNat = 53 := by omega
  have quotient : m * 2 ^ 53 / m = 2 ^ 53 := Nat.mul_div_cancel_left _ pos
  have rest : m * 2 ^ 53 % m = 0 := Nat.mul_mod_right m _
  simp only [divCore, target, amount, Nat.shiftLeft_eq, quotient, rest, accuracyOfFraction, if_true]

theorem div_self {t : Float} (pos : 0 < t) (finite : t.isFinite) : t / t = 1.0 := by
  obtain ⟨m, e, pos', unpacked⟩ := exists_unpack_eq_finite pos finite
  have full : (2 ^ 52).log2 = 52 := Nat.log2_two_pow
  have rounded := roundWithAccuracy_exact .positive 1 (e := -53) (by positivity) full (by norm_num)
  have split : 2 ^ 53 = 2 ^ 52 * 2 ^ 1 := by norm_num
  show Float.ofModel (.pack (UnpackedFloat.div Format.binary64 t.toModel.unpack t.toModel.unpack)) =
    1.0
  rw [unpacked, UnpackedFloat.div, divCore_self pos', split]
  refine (congrArg (fun u => Float.ofModel (.pack u)) rounded).trans ?_
  rfl

/-! ## Close to one -/

theorem lt_infinity {d : Float} (small : d < 1.0) :
    d.toModel.unpack.lt (.infinity .positive) = true := by
  have one : (1.0 : Float).toModel.unpack = .finite .positive (2 ^ 52) (-52) (by decide) := rfl
  rw [lt_iff, one] at small
  generalize d.toModel.unpack = u at small ⊢
  cases u with
  | notANumber => cases small
  | infinity s =>
    cases s with
    | negative => rfl
    | positive => cases small
  | zero s => rfl
  | finite s m e pos => cases s <;> rfl

/-- What is closer to one than the zeros is positive and finite. -/
theorem finite_of_close_to_one {x d : Float} (nonneg : 0 ≤ x) (close : ¬(x - 1.0).abs > d)
    (small : d < 1.0) :
    x.isFinite ∧ 0 < x := by
  obtain unsigned | rfl := nonneg_iff.1 nonneg
  · generalize unpacked : x.toModel.unpack = u at unsigned
    cases unsigned with
    | infinity =>
      obtain rfl := eq_of_pack unpacked
      exact absurd (lt_iff.2 (lt_infinity small)) close
    | zero =>
      obtain rfl := eq_of_pack unpacked
      exact absurd small close
    | finite pos =>
      refine ⟨?_, pos_iff.2 ⟨?_, ?_⟩⟩
      · show x.toModel.unpack.isFinite = true
        rw [unpacked]
        rfl
      · rw [unpacked]
        exact .finite pos
      · rintro rfl
        have zero : UnpackedFloat.zero .positive = _ := unpacked
        cases zero
  · exact absurd small close

/-! ## Draws -/

theorem draw_le_zero_iff {word : UInt64} : Random.draw word ≤ 0 ↔ Random.draw word = 0 := by
  constructor
  · intro bound
    by_cases zero : word >>> 11 = 0
    · exact draw_of_zero zero
    · obtain ⟨m, pos, e, -, unpacked⟩ := unpack_draw zero
      rw [le_iff, unpacked] at bound
      cases bound
  · intro zero
    rw [zero]
    rfl

end CellularAutomaton.Binary64
