import CellularAutomaton.Numeral.Shortest
import Mathlib

/-!
# Rounding to the nearest double

The numbers that round to a double are those of its interval: half a unit of its last place to both
sides, only a quarter below a power of two, with the ends if the mantissa is even.
-/

namespace CellularAutomaton.Numeral

/-! ## Whole numbers -/

theorem roundHalfEven_eq {num den m : ℕ} (pos : 0 < den) (low : 2 * (m * den) ≤ 2 * num + den)
    (high : 2 * num ≤ 2 * (m * den) + den)
    (odd : m % 2 = 1 → 2 * (m * den) ≠ 2 * num + den ∧ 2 * num ≠ 2 * (m * den) + den) :
    roundHalfEven num den = m := by
  have parts := Nat.div_add_mod num den
  have rest := Nat.mod_lt num pos
  rw [Nat.mul_comm] at parts
  unfold roundHalfEven
  rcases Nat.lt_or_ge num (m * den) with below | above
  · -- the fraction lies below, in the last unit before `m`
    obtain ⟨k, rfl⟩ : ∃ k, m = k + 1 :=
      Nat.exists_eq_add_of_le' (Nat.pos_of_ne_zero (by rintro rfl; omega))
    have quotient : num / den = k :=
      Nat.div_eq_of_lt_le (by rw [Nat.add_mul] at low; omega) below
    rw [Nat.add_mul, Nat.one_mul] at low high odd
    rw [quotient] at parts ⊢
    rw [if_pos]
    rcases Nat.mod_two_eq_zero_or_one k with even | odd'
    · have := odd (by omega)
      omega
    · omega
  · have quotient : num / den = m := by
      refine Nat.div_eq_of_lt_le above ?_
      rw [Nat.add_mul]
      omega
    rw [quotient] at parts ⊢
    rw [if_neg]
    rcases Nat.mod_two_eq_zero_or_one m with even | odd'
    · omega
    · have := odd odd'
      omega

theorem log2_div_eq {num den k : ℕ} (pos : 0 < den) (low : 2 ^ k * den ≤ num)
    (high : num < 2 ^ (k + 1) * den) :
    (num / den).log2 = k := by
  have lower : 2 ^ k ≤ num / den := (Nat.le_div_iff_mul_le pos).2 low
  have some : num / den ≠ 0 := Nat.ne_of_gt (Nat.lt_of_lt_of_le (Nat.two_pow_pos k) lower)
  exact (Nat.log2_eq_iff some).2 ⟨lower, (Nat.div_lt_iff_lt_mul pos).2 high⟩

/-! ## Magnitudes -/

namespace Magnitude

structure Canonical (m : Magnitude) : Prop where
  pos : 0 < m.mantissa
  small : m.mantissa < 2 ^ 53
  full : 0 < m.shift → 2 ^ 52 ≤ m.mantissa
  bound : m.shift ≤ 2045

/-- The bits of the double. The leading bit of a full mantissa counts for the exponent field. -/
def code (m : Magnitude) : ℕ := (m.shift <<< 52) + m.mantissa

variable {m : Magnitude} {units den : ℕ}

/-- What it means that a fraction of units lies in the interval, with `unit` for a unit of the last
place. -/
theorem bounds_of_holds (inside : m.interval.holds (4 * units) den) {unit : ℕ}
    (same : unit = den * 2 ^ m.shift) :
    4 * units ≤ 4 * (m.mantissa * unit) + 2 * unit ∧
    4 * (m.mantissa * unit) ≤ 4 * units + 2 * unit ∧
    (m.mantissa = 2 ^ 52 → 0 < m.shift → 4 * (m.mantissa * unit) ≤ 4 * units + unit) ∧
    (m.mantissa % 2 = 1 → 4 * units ≠ 4 * (m.mantissa * unit) + 2 * unit ∧
      4 * (m.mantissa * unit) ≠ 4 * units + 2 * unit) := by
  have value : 4 * m.units * den = 4 * (m.mantissa * unit) := by
    rw [same, Magnitude.units, Nat.shiftLeft_eq]
    ring
  have gap : (1 <<< m.shift) * den = unit := by
    rw [same, Nat.one_shiftLeft, Nat.mul_comm]
  have double : 2 * (1 <<< m.shift) * den = 2 * unit := by rw [Nat.mul_assoc, gap]
  rw [Interval.holds, interval] at inside
  dsimp only at inside
  rw [Nat.sub_mul, Nat.add_mul, value, double] at inside
  by_cases narrow : m.mantissa = 1 <<< 52 ∧ 0 < m.shift
  · rw [if_pos narrow, gap] at inside
    by_cases even : m.mantissa % 2 = 0
    · simp only [even, decide_true, if_true, Bool.and_eq_true, decide_eq_true_eq] at inside
      omega
    · simp only [even, decide_false, Bool.false_eq_true, if_false, Bool.and_eq_true,
        decide_eq_true_eq] at inside
      omega
  · have wide : m.mantissa = 2 ^ 52 → ¬0 < m.shift := fun half shifted => narrow ⟨half, shifted⟩
    rw [if_neg narrow, double] at inside
    by_cases even : m.mantissa % 2 = 0
    · simp only [even, decide_true, if_true, Bool.and_eq_true, decide_eq_true_eq] at inside
      omega
    · simp only [even, decide_false, Bool.false_eq_true, if_false, Bool.and_eq_true,
        decide_eq_true_eq] at inside
      omega

/-- Only the lower end of the interval of a power of two lies in the range of a smaller exponent. -/
theorem rounded_eq_code_of_lt (canonical : m.Canonical) (pos : 0 < den)
    (inside : m.interval.holds (4 * units) den) (shifted : 0 < m.shift)
    (below : units < 2 ^ 52 * (den * 2 ^ m.shift)) :
    (((units / den).log2 - 52) <<< 52) + roundHalfEven units (den <<< ((units / den).log2 - 52)) =
      m.code := by
  obtain ⟨upper, lower, narrow, odd⟩ := bounds_of_holds inside rfl
  have full := canonical.full shifted
  obtain ⟨t, shift⟩ := Nat.exists_eq_add_of_le' shifted
  have unitPos : 0 < den * 2 ^ t := Nat.mul_pos pos (Nat.two_pow_pos _)
  have half : den * 2 ^ m.shift = 2 * (den * 2 ^ t) := by
    rw [shift, Nat.pow_succ]
    ring
  rw [half] at upper lower narrow below
  have power : m.mantissa = 2 ^ 52 := by
    rcases Nat.eq_or_lt_of_le full with same | more
    · exact same.symm
    · have above := Nat.mul_le_mul_right (2 * (den * 2 ^ t)) more
      rw [Nat.succ_mul] at above
      omega
  have near := narrow power shifted
  rw [power] at near
  have range : 2 ^ (52 + t) * den = 2 ^ 52 * (den * 2 ^ t) ∧
      2 ^ (52 + t + 1) * den = 2 ^ 53 * (den * 2 ^ t) := by
    constructor <;> ring
  have log2 : (units / den).log2 = 52 + t :=
    log2_div_eq pos (by rw [range.1]; omega) (by rw [range.2]; omega)
  have mantissa : roundHalfEven units (den * 2 ^ t) = 2 ^ 53 :=
    roundHalfEven_eq unitPos (by omega) (by omega) fun isOdd => by omega
  rw [log2, Nat.add_sub_cancel_left, Nat.shiftLeft_eq den, mantissa, code, power, shift,
    Nat.shiftLeft_eq, Nat.shiftLeft_eq]
  omega

theorem log2_div_sub_eq (canonical : m.Canonical) (pos : 0 < den)
    (inside : m.interval.holds (4 * units) den)
    (above : 0 < m.shift → 2 ^ 52 * (den * 2 ^ m.shift) ≤ units) :
    (units / den).log2 - 52 = m.shift := by
  obtain ⟨upper, -, -, -⟩ := bounds_of_holds inside rfl
  have under : units < 2 ^ 53 * (den * 2 ^ m.shift) := by
    have unitPos : 0 < den * 2 ^ m.shift := Nat.mul_pos pos (Nat.two_pow_pos _)
    have last := Nat.mul_le_mul_right (den * 2 ^ m.shift) (Nat.succ_le_of_lt canonical.small)
    rw [Nat.succ_mul] at last
    omega
  rcases Nat.eq_zero_or_pos m.shift with zero | shifted
  · rw [zero, Nat.pow_zero, Nat.mul_one] at under
    have least : units / den < 2 ^ 53 := (Nat.div_lt_iff_lt_mul pos).2 under
    have bound : (units / den).log2 < 53 := by
      rcases Nat.eq_zero_or_pos (units / den) with none | some
      · rw [none]
        decide
      · exact (Nat.log2_lt (Nat.ne_of_gt some)).2 least
    omega
  · have range : 2 ^ (52 + m.shift) * den = 2 ^ 52 * (den * 2 ^ m.shift) ∧
        2 ^ (52 + m.shift + 1) * den = 2 ^ 53 * (den * 2 ^ m.shift) := by
      constructor <;> ring
    have log2 : (units / den).log2 = 52 + m.shift :=
      log2_div_eq pos (by rw [range.1]; exact above shifted) (by rw [range.2]; exact under)
    rw [log2, Nat.add_sub_cancel_left]

theorem rounded_eq_code (canonical : m.Canonical) (pos : 0 < den)
    (inside : m.interval.holds (4 * units) den) :
    (((units / den).log2 - 52) <<< 52) + roundHalfEven units (den <<< ((units / den).log2 - 52)) =
      m.code := by
  by_cases below : 0 < m.shift ∧ units < 2 ^ 52 * (den * 2 ^ m.shift)
  · exact rounded_eq_code_of_lt canonical pos inside below.1 below.2
  · have shift := log2_div_sub_eq canonical pos inside fun shifted =>
      Nat.le_of_not_lt fun less => below ⟨shifted, less⟩
    obtain ⟨upper, lower, -, odd⟩ := bounds_of_holds inside rfl
    have mantissa : roundHalfEven units (den * 2 ^ m.shift) = m.mantissa := by
      refine roundHalfEven_eq (Nat.mul_pos pos (Nat.two_pow_pos _)) (by omega) (by omega) ?_
      intro isOdd
      have ends := odd isOdd
      omega
    rw [shift, Nat.shiftLeft_eq den, mantissa, code]

theorem Canonical.code_lt (canonical : m.Canonical) : m.code < infinityBits := by
  have bound := canonical.bound
  have small := canonical.small
  rw [code, Nat.shiftLeft_eq, infinityBits]
  omega

theorem Canonical.nearest_eq (canonical : m.Canonical) {num : ℕ} (pos : 0 < den)
    (inside : m.interval.holds (4 * (num * unitsPerOne)) den) :
    nearest num den = Float.ofBits (UInt64.ofNat m.code) := by
  have bits := rounded_eq_code canonical pos inside
  rw [nearest, bits, Nat.min_eq_left canonical.code_lt.le]

end Magnitude

end CellularAutomaton.Numeral
