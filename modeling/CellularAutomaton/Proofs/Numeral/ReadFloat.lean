import CellularAutomaton.Numeral.ReadFloat
import CellularAutomaton.Proofs.Numeral.Bits
import CellularAutomaton.Proofs.Numeral.Float
import CellularAutomaton.Proofs.Numeral.Shortest
import Mathlib

/-!
# Doubles read back

The decimal in the text of a double lies in the interval of the double and in the range that is not
told by the number of digits. So the text of a double that is not negative is read as the same
double.
-/

namespace CellularAutomaton.Numeral

/-! ## The range of doubles -/

theorem lt_ten_pow_length (n : ℕ) : n < 10 ^ (natural n).length :=
  (Nat.length_toDigits_le_iff (by decide) (List.length_pos_iff.2 (natural_ne_nil n))).1 le_rfl

theorem ten_pow_pred_length_le {n : ℕ} (some : n ≠ 0) : 10 ^ ((natural n).length - 1) ≤ n := by
  have pos := List.length_pos_iff.2 (natural_ne_nil n)
  by_contra less
  rcases Nat.eq_zero_or_pos ((natural n).length - 1) with one | more
  · rw [one] at less
    omega
  · have shorter := (Nat.length_toDigits_le_iff (b := 10) (by decide) more).2
      (Nat.lt_of_not_ge less)
    rw [← natural] at shorter
    omega

theorem length_bounds {d n a : ℕ} {e : ℤ} (range : a < 10 ^ n)
    (low : 10 ^ (-e).toNat ≤ d * 10 ^ e.toNat * a) (high : d * 10 ^ e.toNat ≤ a * 10 ^ (-e).toNat) :
    -n ≤ (natural d).length + e ∧ (natural d).length + e ≤ n := by
  have some : d ≠ 0 := by
    rintro rfl
    rw [Nat.zero_mul, Nat.zero_mul] at low
    exact absurd low (Nat.not_le.2 (Nat.pow_pos (by decide)))
  have first := ten_pow_pred_length_le some
  have last := lt_ten_pow_length d
  have pos := List.length_pos_iff.2 (natural_ne_nil d)
  rcases Int.eq_nat_or_neg e with ⟨p, rfl | rfl⟩
  · rw [Int.toNat_natCast, Int.toNat_neg_natCast, Nat.pow_zero, Nat.mul_one] at high
    have powers : 10 ^ ((natural d).length - 1 + p) < 10 ^ n := by
      rw [Nat.pow_add]
      exact ((Nat.mul_le_mul_right _ first).trans high).trans_lt range
    have := (Nat.pow_lt_pow_iff_right (by decide)).1 powers
    omega
  · rw [neg_neg, Int.toNat_natCast, Int.toNat_neg_natCast, Nat.pow_zero, Nat.mul_one] at low high
    have above : 10 ^ ((natural d).length - 1) < 10 ^ (n + p) := by
      rw [Nat.pow_add]
      exact (first.trans high).trans_lt
        (Nat.mul_lt_mul_of_pos_right range (Nat.pow_pos (by decide)))
    have below : 10 ^ p < 10 ^ ((natural d).length + n) := by
      rw [Nat.pow_add]
      exact low.trans_lt (Nat.mul_lt_mul'' last range)
    have := (Nat.pow_lt_pow_iff_right (by decide)).1 above
    have := (Nat.pow_lt_pow_iff_right (by decide)).1 below
    omega

/-- Numbers that are far too large or too small are told by their length only outside this range. -/
theorem ofDecimal_eq {d : ℕ} {e : ℤ}
    (low : 10 ^ (-e).toNat ≤ d * 10 ^ e.toNat * (2 ^ 53 * unitsPerOne))
    (high : d * 10 ^ e.toNat ≤ 2 ^ 53 * unitsPerOne * 10 ^ (-e).toNat) :
    ofDecimal d e = nearest (d * 10 ^ e.toNat) (10 ^ (-e).toNat) := by
  have range : 2 ^ 53 * unitsPerOne < 10 ^ 400 := by decide +kernel
  obtain ⟨notSmall, notLarge⟩ := length_bounds range low high
  have some : d ≠ 0 := by
    rintro rfl
    rw [Nat.zero_mul, Nat.zero_mul] at low
    exact absurd low (Nat.not_le.2 (Nat.pow_pos (by decide)))
  rw [ofDecimal]
  rw [if_neg (by push_cast at notSmall; omega), if_neg (by push_cast at notLarge; omega)]
  rfl

/-! ## Digits and a point -/

theorem takeWhile_isDigit {cs : List Char} (digits : ∀ c ∈ cs, c.isDigit) :
    cs.takeWhile Char.isDigit = cs :=
  List.takeWhile_eq_self_iff.2 digits

theorem dropWhile_isDigit {cs : List Char} (digits : ∀ c ∈ cs, c.isDigit) :
    cs.dropWhile Char.isDigit = [] :=
  List.dropWhile_eq_nil_iff.2 digits

theorem readUnsignedFloat?_whole {cs : List Char} (some : cs ≠ []) (digits : ∀ c ∈ cs, c.isDigit) :
    readUnsignedFloat? cs = ofDecimal (Nat.ofDigitChars 10 cs 0) 0 := by
  have notEmpty : cs.isEmpty = false := by simpa using some
  rw [readUnsignedFloat?, takeWhile_isDigit digits, dropWhile_isDigit digits]
  dsimp only
  rw [notEmpty, List.append_nil]
  rfl

theorem readUnsignedFloat?_point {whole fraction : List Char} (some : whole ≠ [])
    (wholeDigits : ∀ c ∈ whole, c.isDigit) (digits : ∀ c ∈ fraction, c.isDigit) :
    readUnsignedFloat? (whole ++ '.' :: fraction) =
      ofDecimal (Nat.ofDigitChars 10 (whole ++ fraction) 0) (-fraction.length) := by
  have notEmpty : whole.isEmpty = false := by simpa using some
  have first : (whole ++ '.' :: fraction).takeWhile Char.isDigit = whole := by
    rw [List.takeWhile_append_of_pos wholeDigits]
    exact List.append_nil whole
  have rest : (whole ++ '.' :: fraction).dropWhile Char.isDigit = '.' :: fraction := by
    rw [List.dropWhile_append_of_pos wholeDigits]
    rfl
  rw [readUnsignedFloat?, first, rest]
  simp only [takeWhile_isDigit digits, dropWhile_isDigit digits, notEmpty, Bool.false_and]
  show Option.some (ofDecimal _ (0 - _)) = _
  rw [zero_sub]

namespace Decimal

variable {d : Decimal}

/-- The digits after the point, with zeros before them if there are too few. -/
def places (fraction n : ℕ) : List Char :=
  List.replicate (n - (natural fraction).length) '0' ++ natural fraction

theorem isDigit_of_mem_places {fraction n : ℕ} {c : Char} (inside : c ∈ places fraction n) :
    c.isDigit := by
  rcases List.mem_append.1 inside with zero | digit
  · rw [List.eq_of_mem_replicate zero]
    rfl
  · exact isDigit_of_mem_natural digit

theorem length_places {fraction n : ℕ} (some : 0 < n) (less : fraction < 10 ^ n) :
    (places fraction n).length = n := by
  have short : (natural fraction).length ≤ n := (Nat.length_toDigits_le_iff (by decide) some).2 less
  rw [places, List.length_append, List.length_replicate]
  omega

theorem ofDigitChars_places {fraction n : ℕ} (some : 0 < n) (less : fraction < 10 ^ n) (whole : ℕ) :
    Nat.ofDigitChars 10 (natural whole ++ places fraction n) 0 = 10 ^ n * whole + fraction := by
  have short : (natural fraction).length ≤ n := (Nat.length_toDigits_le_iff (by decide) some).2 less
  rw [Nat.ofDigitChars_append, natural, Nat.ofDigitChars_ten_toDigits, places,
    Nat.ofDigitChars_append, Nat.ofDigitChars_replicate_zero, Nat.ofDigitChars_eq_ofDigitChars_zero,
      ← Nat.mul_assoc, ← Nat.pow_add,
    Nat.add_sub_cancel' short, natural, Nat.ofDigitChars_ten_toDigits]

/-- The text of a decimal is read as its digits and its exponent, except that no exponent is
written. -/
theorem readUnsignedFloat?_positional (d : Decimal) :
    readUnsignedFloat? d.positional =
      ofDecimal (d.digits * 10 ^ d.exponent.toNat) (min d.exponent 0) := by
  rw [positional]
  split_ifs with whole
  · rw [readUnsignedFloat?_whole (natural_ne_nil _) fun _ => isDigit_of_mem_natural, natural,
      Nat.ofDigitChars_ten_toDigits, min_eq_right whole]
    rfl
  · obtain ⟨n, exponent⟩ := Int.exists_eq_neg_ofNat (Int.le_of_lt (Int.not_le.1 whole))
    have some : 0 < n := by omega
    have less : d.digits % 10 ^ n < 10 ^ n := Nat.mod_lt _ (Nat.pow_pos (by decide))
    have read := readUnsignedFloat?_point (natural_ne_nil (d.digits / 10 ^ n))
      (fun _ => isDigit_of_mem_natural)
      fun c (inside : c ∈ places (d.digits % 10 ^ n) n) => isDigit_of_mem_places inside
    rw [ofDigitChars_places some less, Nat.div_add_mod, length_places some less] at read
    rw [exponent, neg_neg, Int.toNat_natCast, Int.toNat_neg_natCast, Nat.pow_zero, Nat.mul_one,
      min_eq_left (by omega)]
    dsimp only
    rw [List.append_assoc]
    exact read

end Decimal

/-! ## The decimal of a double -/

namespace Magnitude

variable {m : Magnitude}

theorem two_pow_le_unitsPerOne {n : ℕ} (bound : n ≤ 1074 + 1074) :
    2 ^ n ≤ unitsPerOne * unitsPerOne := by
  have power : (2 : ℚ) ^ (n : ℤ) ≤ 2 ^ (1074 : ℤ) * 2 ^ (1074 : ℤ) := by
    rw [← zpow_add₀ (by norm_num)]
    exact zpow_le_zpow_right₀ (by norm_num) (by exact_mod_cast bound)
  rw [zpow_natCast, ← unitsPerOne_cast] at power
  exact_mod_cast power

/-- The interval of a double lies well inside the range that is computed. -/
theorem range_of_holds (canonical : m.Canonical) {num den : ℕ} (pos : 0 < den)
    (inside : m.interval.holds (4 * (num * unitsPerOne)) den) :
    den ≤ num * (2 ^ 53 * unitsPerOne) ∧ num ≤ 2 ^ 53 * unitsPerOne * den := by
  obtain ⟨upper, lower, -, -⟩ := bounds_of_holds inside rfl
  have least : den ≤ den * 2 ^ m.shift := Nat.le_mul_of_pos_right _ (Nat.two_pow_pos _)
  have first := Nat.mul_le_mul_right (den * 2 ^ m.shift) canonical.pos
  have last := Nat.mul_le_mul_right (den * 2 ^ m.shift) (Nat.succ_le_of_lt canonical.small)
  rw [Nat.succ_mul] at first last
  constructor
  · calc
      den ≤ 2 ^ 53 * (num * unitsPerOne) := by omega
      _ = num * (2 ^ 53 * unitsPerOne) := by ring
  · refine Nat.le_of_mul_le_mul_right ?_ unitsPerOne_pos
    calc
      num * unitsPerOne ≤ 2 ^ 53 * (den * 2 ^ m.shift) := by omega
      _ ≤ 2 ^ 53 * (den * (unitsPerOne * unitsPerOne)) := by
        gcongr
        exact two_pow_le_unitsPerOne (canonical.bound.trans (by decide))
      _ = 2 ^ 53 * unitsPerOne * den * unitsPerOne := by ring

theorem ofDecimal_shortest (canonical : m.Canonical) :
    ofDecimal (m.shortest.digits * 10 ^ m.shortest.exponent.toNat) (min m.shortest.exponent 0) =
      Float.ofBits (UInt64.ofNat m.code) := by
  have pos : 0 < 10 ^ (-m.shortest.exponent).toNat := Nat.pow_pos (by decide)
  have inside := shortest_holds canonical
  rw [show m.shortest.digits * (4 * unitsPerOne * 10 ^ m.shortest.exponent.toNat) =
    4 * (m.shortest.digits * 10 ^ m.shortest.exponent.toNat * unitsPerOne) by ring] at inside
  obtain ⟨low, high⟩ := range_of_holds canonical pos inside
  have whole : (min m.shortest.exponent 0).toNat = 0 := by omega
  have power : (-min m.shortest.exponent 0).toNat = (-m.shortest.exponent).toNat := by omega
  rw [ofDecimal_eq] <;> rw [whole, power, Nat.pow_zero, Nat.mul_one]
  · exact canonical.nearest_eq pos inside
  · exact low
  · exact high

end Magnitude

/-! ## The text of a double -/

theorem toLower_of_isDigit {c : Char} (digit : c.isDigit) : c.toLower = c := by
  rw [Char.toLower, dif_neg]
  rintro ⟨upper, -⟩
  have high := (Char.isDigit_iff_toNat.1 digit).2
  have low : 'A'.toNat ≤ c.toNat := UInt32.le_iff_toNat_le.1 upper
  exact absurd (low.trans high) (by decide)

theorem readMagnitude?_cons {c : Char} (digit : c.isDigit) (cs : List Char) :
    readMagnitude? (c :: cs) = readUnsignedFloat? (c :: cs) := by
  have notWord {word : String} {d : Char} (letter : word.toList.head? = some d)
    (other : d.isDigit = false) :
      String.ofList ((c :: cs).map Char.toLower) ≠ word := by
    intro same
    rw [← same, String.toList_ofList, List.map_cons, List.head?_cons, toLower_of_isDigit digit,
      Option.some.injEq] at letter
    rw [letter, other] at digit
    cases digit
  rw [readMagnitude?]
  rw [if_neg (not_or.2 ⟨notWord rfl rfl, notWord rfl rfl⟩), if_neg (notWord rfl rfl)]

theorem exists_positional_eq_cons (d : Decimal) : ∃ c cs, d.positional = c :: cs ∧ c.isDigit := by
  rw [Decimal.positional]
  split_ifs
  · exact exists_natural_eq_cons _
  · obtain ⟨c, cs, same, digit⟩ :=
      exists_natural_eq_cons (d.digits / Nat.pow 10 (-d.exponent).toNat)
    exact ⟨c, _, by rw [List.append_assoc, same]; rfl, digit⟩

theorem exists_magnitudeText_eq_cons (x : Float) :
    ∃ c cs, magnitudeText x = c :: cs ∧ c.isDigit := by
  rw [magnitudeText]
  split_ifs
  · exact ⟨'0', [], rfl, rfl⟩
  · exact exists_positional_eq_cons _

theorem code_of_zero {x : Float} (zero : (magnitude x).mantissa = 0) : (magnitude x).code = 0 := by
  rw [magnitude] at zero ⊢
  rw [Nat.one_shiftLeft, Nat.one_shiftLeft] at zero ⊢
  split_ifs at zero ⊢ with subnormal
  · rw [Magnitude.code, Nat.zero_shiftLeft, Nat.zero_add]
    exact zero
  · dsimp only at zero
    omega

theorem readMagnitude?_magnitudeText {x : Float} (finite : x.isFinite) :
    readMagnitude? (magnitudeText x) = Float.ofBits (UInt64.ofNat (x.toBits.toNat % 2 ^ 63)) := by
  obtain ⟨c, cs, same, digit⟩ := exists_magnitudeText_eq_cons x
  rw [same, readMagnitude?_cons digit, ← same, magnitudeText, ← code_magnitude]
  split_ifs with zero
  · rw [code_of_zero zero]
    exact readUnsignedFloat?_whole (by decide) (by simp)
  · rw [Decimal.readUnsignedFloat?_positional,
      Magnitude.ofDecimal_shortest (canonical_magnitude finite zero)]

theorem readFloat?_magnitudeText (x : Float) :
    readFloat? (magnitudeText x) = readMagnitude? (magnitudeText x) := by
  obtain ⟨c, cs, same, digit⟩ := exists_magnitudeText_eq_cons x
  rw [same]
  unfold readFloat?
  split
  · next minus =>
    cases minus
    cases digit
  · next plus =>
    cases plus
    cases digit
  · rfl

theorem readFloat?_float {x : Float} (finite : x.isFinite) : readFloat? (float x) = some x := by
  rw [float_of_isFinite finite]
  split_ifs with negative
  · rw [isNegative, decide_eq_true_eq, Nat.one_shiftLeft] at negative
    show (readMagnitude? (magnitudeText x)).map _ = _
    rw [readMagnitude?_magnitudeText finite]
    exact congrArg some (neg_ofBits finite negative)
  · rw [isNegative, decide_eq_true_eq, Nat.one_shiftLeft] at negative
    rw [List.nil_append, readFloat?_magnitudeText, readMagnitude?_magnitudeText finite,
      Nat.mod_eq_of_lt (Nat.lt_of_not_ge negative), UInt64.ofNat_toNat, Float.ofBits_toBits]

end CellularAutomaton.Numeral
