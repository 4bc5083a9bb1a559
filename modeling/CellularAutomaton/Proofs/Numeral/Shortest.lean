import CellularAutomaton.Proofs.Binary64
import CellularAutomaton.Proofs.Numeral.Nearest

/-!
# The search for the shortest decimal

A grid that is finer than half a unit of the last place has a point in the interval of a double, and
the search comes to such a grid in time: the exponent that it begins with is an estimate of the
decimal logarithm, which is too large by no more than a few places. So the search ends with a point
in the interval.
-/

namespace CellularAutomaton.Numeral

/-! ## Powers of ten and of two -/

theorem ten_zpow_le {a b : ℕ} (pos : 0 < b) (lower : 2 ^ b ≤ 10 ^ a)
    (upper : 10 ^ a ≤ 2 ^ (b + 1)) {k q : ℤ} (estimate : b * q ≤ a * k) (bound : k ≤ b) :
    (10 : ℚ) ^ q ≤ 2 ^ (k + 1) := by
  have lower' : (2 : ℚ) ^ b ≤ 10 ^ a := by exact_mod_cast lower
  have upper' : (10 : ℚ) ^ a ≤ 2 ^ (b + 1) := by exact_mod_cast upper
  have powers : (10 : ℚ) ^ (a * k) ≤ 2 ^ (b * (k + 1)) := by
    rcases Int.eq_nat_or_neg k with ⟨n, rfl | rfl⟩
    · calc
        (10 : ℚ) ^ ((a : ℤ) * n) = (10 ^ a) ^ n := by rw [zpow_mul, zpow_natCast, zpow_natCast]
        _ ≤ (2 ^ (b + 1)) ^ n := pow_le_pow_left₀ (by positivity) upper' n
        _ = 2 ^ (((b + 1 : ℕ) : ℤ) * n) := by rw [zpow_mul, zpow_natCast, zpow_natCast]
        _ ≤ 2 ^ ((b : ℤ) * (n + 1)) := zpow_le_zpow_right₀ (by norm_num) (by push_cast; linarith)
    · calc
        (10 : ℚ) ^ ((a : ℤ) * -(n : ℤ)) = ((10 ^ a) ^ n)⁻¹ := by
          rw [mul_neg, zpow_neg, zpow_mul, zpow_natCast, zpow_natCast]
        _ ≤ ((2 ^ b) ^ n)⁻¹ := inv_anti₀ (by positivity) (pow_le_pow_left₀ (by positivity) lower' n)
        _ = 2 ^ ((b : ℤ) * -(n : ℤ)) := by
          rw [mul_neg, zpow_neg, zpow_mul, zpow_natCast, zpow_natCast]
        _ ≤ 2 ^ ((b : ℤ) * (-(n : ℤ) + 1)) := zpow_le_zpow_right₀ (by norm_num) (by linarith)
  have raised : ((10 : ℚ) ^ q) ^ b ≤ ((2 : ℚ) ^ (k + 1)) ^ b := by
    rw [← zpow_natCast, ← zpow_natCast, ← zpow_mul, ← zpow_mul]
    calc
      (10 : ℚ) ^ (q * b) ≤ 10 ^ (a * k) := zpow_le_zpow_right₀ (by norm_num) (by linarith)
      _ ≤ 2 ^ (b * (k + 1)) := powers
      _ = _ := by rw [mul_comm]
  exact (pow_le_pow_iff_left₀ (by positivity) (by positivity) (Nat.ne_of_gt pos)).1 raised

/-- The decimal logarithm of two is `30103 / 100000`, well enough for all exponents of doubles. -/
theorem ten_zpow_div_le {k : ℤ} (bound : k ≤ 100000) :
    (10 : ℚ) ^ (k * 30103 / 100000) ≤ 2 ^ (k + 1) := by
  have quotient : 100000 * (k * 30103 / 100000) ≤ 30103 * k := by omega
  exact ten_zpow_le (a := 30103) (b := 100000) (by decide) (by decide +kernel) (by decide +kernel)
    (by exact_mod_cast quotient) (by exact_mod_cast bound)

theorem one_shiftLeft_cast (n : ℕ) : ((1 <<< n : ℕ) : ℚ) = 2 ^ (n : ℤ) := by
  rw [Nat.one_shiftLeft, zpow_natCast]
  norm_cast

theorem unitsPerOne_cast : (unitsPerOne : ℚ) = 2 ^ (1074 : ℤ) := one_shiftLeft_cast 1074

theorem unitsPerOne_pos : 0 < unitsPerOne := by
  have positive : (0 : ℚ) < unitsPerOne := by
    rw [unitsPerOne_cast]
    positivity
  exact_mod_cast positive

theorem ten_pow_toNat (e : ℤ) : (10 : ℚ) ^ e.toNat = 10 ^ e * 10 ^ (-e).toNat := by
  rw [← zpow_natCast, ← zpow_natCast, ← zpow_add₀ (by norm_num)]
  congr 1
  omega

/-! ## Grids -/

namespace Interval

variable {i : Interval} {e : ℤ}

theorem holds_of_onGrid {d : ℕ} (found : i.onGrid e = some d) :
    i.holds (d * (4 * unitsPerOne * 10 ^ e.toNat)) (10 ^ (-e).toNat) := by
  rw [onGrid] at found
  split_ifs at found with up down
  · cases found
    exact (Bool.and_eq_true_iff.1 up).1
  · cases found
    exact down

theorem isSome_onGrid (width : ℕ) (below : i.lower ≤ i.value) (above : i.value + width ≤ i.upper)
    (fine : 4 * unitsPerOne * 10 ^ e.toNat < width * 10 ^ (-e).toNat) : (i.onGrid e).isSome := by
  have numPos : 0 < 4 * unitsPerOne * 10 ^ e.toNat :=
    Nat.mul_pos (Nat.mul_pos (by decide) unitsPerOne_pos) (Nat.pow_pos (by decide))
  have high : i.holds ((i.value * 10 ^ (-e).toNat / (4 * unitsPerOne * 10 ^ e.toNat) + 1) *
      (4 * unitsPerOne * 10 ^ e.toNat)) (10 ^ (-e).toNat) = true := by
    generalize 4 * unitsPerOne * 10 ^ e.toNat = num at fine numPos ⊢
    generalize (10 ^ (-e).toNat : ℕ) = den at fine ⊢
    have lower := Nat.mul_le_mul_right den below
    have upper := Nat.mul_le_mul_right den above
    have parts := Nat.div_add_mod' (i.value * den) num
    have rest := Nat.mod_lt (i.value * den) numPos
    rw [Nat.add_mul] at upper
    rw [holds, Nat.add_mul, Nat.one_mul]
    split_ifs <;> simp only [Bool.and_eq_true, decide_eq_true_eq] <;> omega
  rw [onGrid]
  simp only [Nat.pow_eq, high, Bool.true_and]
  split_ifs <;> simp_all

/-- A search that comes to a grid with a point in the interval ends with such a point. -/
theorem onGrid_search {tries t : ℕ} (early : t < tries) (found : (i.onGrid (e - t)).isSome) :
    i.onGrid (i.search tries e).exponent = some (i.search tries e).digits := by
  induction tries generalizing t e with
  | zero => cases early
  | succ tries ih =>
    rw [search]
    split
    · next here => exact here
    · next nowhere =>
      cases t with
      | zero =>
        rw [Nat.cast_zero, sub_zero, nowhere] at found
        cases found
      | succ t =>
        refine ih (t := t) (Nat.lt_of_succ_lt_succ early) ?_
        rwa [sub_sub, add_comm, ← Nat.cast_succ]

end Interval

namespace Magnitude

variable {m : Magnitude}

theorem interval_lower_le (m : Magnitude) : m.interval.lower ≤ m.interval.value := Nat.sub_le _ _

theorem log2_units (canonical : m.Canonical) : m.units.log2 ≤ 52 + m.shift := by
  have small : m.mantissa.log2 < 53 := (Nat.log2_lt (Nat.ne_of_gt canonical.pos)).2 canonical.small
  rw [units, Nat.shiftLeft_eq, Binary64.log2_mul_two_pow _ canonical.pos]
  omega

theorem fine_grid (canonical : m.Canonical) {e : ℤ}
    (last : e = ((m.units.log2 : ℤ) - 1074) * 30103 / 100000 - 20) :
    4 * unitsPerOne * 10 ^ e.toNat < 2 * 2 ^ m.shift * 10 ^ (-e).toNat := by
  have log2 := log2_units canonical
  have bound := canonical.bound
  have estimate := ten_zpow_div_le (k := (m.units.log2 : ℤ) - 1074) (by omega)
  have power : (10 : ℚ) ^ e ≤ 2 ^ ((m.shift : ℤ) - 1021) / 10 ^ 20 := by
    rw [last, zpow_sub₀ (by norm_num)]
    refine div_le_div_of_nonneg_right (estimate.trans ?_) (by norm_num)
    exact zpow_le_zpow_right₀ (by norm_num) (by omega)
  have rational : 4 * (2 : ℚ) ^ (1074 : ℤ) * 10 ^ e < 2 * 2 ^ m.shift := by
    have exponents : (2 : ℚ) ^ (1074 : ℤ) * 2 ^ ((m.shift : ℤ) - 1021) = 2 ^ m.shift * 2 ^ 53 := by
      rw [← zpow_add₀ (by norm_num), ← pow_add, ← zpow_natCast]
      congr 1
      omega
    calc
      4 * (2 : ℚ) ^ (1074 : ℤ) * 10 ^ e ≤
        4 * 2 ^ (1074 : ℤ) * (2 ^ ((m.shift : ℤ) - 1021) / 10 ^ 20) := by gcongr
      _ = 4 * (2 ^ (1074 : ℤ) * 2 ^ ((m.shift : ℤ) - 1021)) / 10 ^ 20 := by ring
      _ = 2 * 2 ^ m.shift * (2 ^ 54 / 10 ^ 20) := by
        rw [exponents]
        ring
      _ < 2 * 2 ^ m.shift * 1 := mul_lt_mul_of_pos_left (by norm_num) (by positivity)
      _ = 2 * 2 ^ m.shift := mul_one _
  have scaled : ((4 * unitsPerOne * 10 ^ e.toNat : ℕ) : ℚ) <
      ((2 * 2 ^ m.shift * 10 ^ (-e).toNat : ℕ) : ℚ) := by
    push_cast
    rw [unitsPerOne_cast, ten_pow_toNat, ← mul_assoc]
    exact mul_lt_mul_of_pos_right rational (by positivity)
  exact_mod_cast scaled

theorem shortest_holds (canonical : m.Canonical) :
    m.interval.holds (m.shortest.digits * (4 * unitsPerOne * 10 ^ m.shortest.exponent.toNat))
      (10 ^ (-m.shortest.exponent).toNat) := by
  refine Interval.holds_of_onGrid (Interval.onGrid_search (t := 23) (by decide) ?_)
  refine Interval.isSome_onGrid (2 * (1 <<< m.shift)) m.interval_lower_le le_rfl ?_
  rw [Nat.one_shiftLeft]
  exact fine_grid canonical (by ring)

end Magnitude

end CellularAutomaton.Numeral
