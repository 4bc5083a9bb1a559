import CellularAutomaton.Proofs.Value

/-!
# Rounding to the nearest double

A mantissa with a round bit and a sticky bit tells enough of a number to round it to the nearest
whole number, to the even one of two. Rounding a number to a double is monotone, since the unit of
the last place is determined by the number. Sums and quotients of doubles are rounded like this, so
that adding what is not negative does not make a double smaller, and dividing by a positive double
keeps the order.
-/

open Float.Model Float.Model.UnpackedFloat

namespace CellularAutomaton.Binary64

open Value

/-! ## Whole numbers -/

/-- The whole number is no more than a half away, and less than that if it is odd. -/
structure HalfEven (q : ℚ) (n : ℕ) : Prop where
  low : (n : ℚ) ≤ q + 1 / 2
  high : q ≤ n + 1 / 2
  odd : n % 2 = 1 → (n : ℚ) < q + 1 / 2 ∧ q < n + 1 / 2

theorem HalfEven.mono {q q' : ℚ} {n n' : ℕ} (near : HalfEven q n) (near' : HalfEven q' n')
    (le : q ≤ q') : n ≤ n' := by
  by_contra more
  have next : ((n' + 1 : ℕ) : ℚ) ≤ n := mod_cast Nat.lt_of_not_le more
  push_cast at next
  -- both numbers are the half between the two whole ones, of which one is odd
  have low := near.low
  have high := near'.high
  have whole : n = n' + 1 := by
    have : (n : ℚ) = (n' + 1 : ℕ) := by push_cast; linarith
    exact mod_cast this
  obtain even | odd := Nat.mod_two_eq_zero_or_one n'
  · have := (near.odd (by omega)).1
    linarith
  · have := (near'.odd odd).2
    linarith

theorem HalfEven.natCast (n : ℕ) : HalfEven n n :=
  ⟨by linarith, by linarith, fun _ => ⟨by linarith, by linarith⟩⟩

/-- What an extended mantissa tells of a number: its whole part, and whether the rest is zero, less
than a half, a half, or more. -/
inductive Tells : ExtendedMantissa → ℚ → Prop
  | whole (m : ℕ) : Tells ⟨m, false, false⟩ m
  | less {m : ℕ} {q : ℚ} (low : m < q) (high : q < m + 1 / 2) : Tells ⟨m, false, true⟩ q
  | half (m : ℕ) : Tells ⟨m, true, false⟩ (m + 1 / 2)
  | more {m : ℕ} {q : ℚ} (low : m + 1 / 2 < q) (high : q < m + 1) : Tells ⟨m, true, true⟩ q

namespace Tells

variable {em : ExtendedMantissa} {q : ℚ}

theorem halfEven (tells : Tells em q) : HalfEven q em.roundedMantissa := by
  cases tells with
  | whole m => exact .natCast m
  | @less m _ low high =>
    show HalfEven q m
    exact ⟨by linarith, high.le, fun _ => ⟨by linarith, high⟩⟩
  | half m =>
    show HalfEven (m + 1 / 2) (m + m % 2)
    obtain even | odd := Nat.mod_two_eq_zero_or_one m
    · rw [even, Nat.add_zero]
      exact ⟨by linarith, le_rfl, fun odd => by omega⟩
    · rw [odd]
      exact ⟨by push_cast; linarith, by push_cast; linarith, fun odd => by omega⟩
  | @more m _ low high =>
    show HalfEven q (m + 1)
    exact ⟨by push_cast; linarith, by push_cast; linarith,
      fun _ => ⟨by push_cast; linarith, by push_cast; linarith⟩⟩

theorem bounds (tells : Tells em q) : em.mantissa ≤ q ∧ q < em.mantissa + 1 := by
  cases tells with
  | whole m => exact ⟨le_rfl, by simp⟩
  | less low high => exact ⟨low.le, by linarith⟩
  | half m => constructor <;> linarith
  | more low high => exact ⟨by linarith, high⟩

theorem shiftRightOne_even (k : ℕ) (r s : Bool) :
    (⟨2 * k, r, s⟩ : ExtendedMantissa).shiftRightOne = ⟨k, false, r || s⟩ := by
  simp [ExtendedMantissa.shiftRightOne]

theorem shiftRightOne_odd (k : ℕ) (r s : Bool) :
    (⟨2 * k + 1, r, s⟩ : ExtendedMantissa).shiftRightOne = ⟨k, true, r || s⟩ := by
  have half : (2 * k + 1) / 2 = k := by omega
  simp [ExtendedMantissa.shiftRightOne, half]

theorem shiftRightOne (tells : Tells em q) : Tells em.shiftRightOne (q / 2) := by
  obtain ⟨m, r, s⟩ := em
  obtain ⟨k, rfl | rfl⟩ := Nat.even_or_odd' m
  · rw [shiftRightOne_even]
    generalize even : 2 * k = m at tells
    have even : (m : ℚ) = 2 * k := by rw [← even]; push_cast; rfl
    cases tells with
    | whole =>
      have : (m / 2 : ℚ) = k := by rw [even]; ring
      rw [this]
      exact .whole k
    | less low high => exact .less (by linarith) (by linarith)
    | half => exact .less (by linarith) (by linarith)
    | more low high => exact .less (by linarith) (by linarith)
  · rw [shiftRightOne_odd]
    generalize odd : 2 * k + 1 = m at tells
    have odd : (m : ℚ) = 2 * k + 1 := by rw [← odd]; push_cast; rfl
    cases tells with
    | whole =>
      have : (m / 2 : ℚ) = k + 1 / 2 := by rw [odd]; ring
      rw [this]
      exact .half k
    | less low high => exact .more (by linarith) (by linarith)
    | half => exact .more (by linarith) (by linarith)
    | more low high => exact .more (by linarith) (by linarith)

theorem shiftRight (tells : Tells em q) (k : ℕ) : Tells (em >>> k) (q / 2 ^ k) := by
  show Tells (k.repeat ExtendedMantissa.shiftRightOne em) _
  induction k with
  | zero => simpa [Nat.repeat] using tells
  | succ k ih =>
    rw [Nat.repeat, pow_succ, ← div_div]
    exact ih.shiftRightOne

theorem ofNat (m : ℕ) : Tells (.ofMantissaAndAccuracy m .exact) m := .whole m

theorem ofFraction (num : ℕ) {den : ℕ} (pos : 0 < den) :
    Tells (.ofMantissaAndAccuracy (num / den) (accuracyOfFraction (num % den) den))
      (num / den) := by
  have pos : (0 : ℚ) < den := mod_cast pos
  have parts : (num : ℚ) / den = (num / den : ℕ) + (num % den : ℕ) / den := by
    rw [← mul_div_cancel_left₀ ((num / den : ℕ) : ℚ) pos.ne', ← add_div]
    exact congrArg (· / (den : ℚ)) (mod_cast (Nat.div_add_mod num den).symm)
  have rest : ((num % den : ℕ) : ℚ) < den := mod_cast Nat.mod_lt num (mod_cast pos)
  rw [parts, accuracyOfFraction]
  generalize num / den = m
  generalize num % den = r at rest
  split_ifs with none
  · simpa [none] using ofNat m
  · have some : (0 : ℚ) < r / den := div_pos (mod_cast Nat.pos_of_ne_zero none) pos
    have one : (r / den : ℚ) < 1 := (div_lt_one pos).2 rest
    obtain lt | eq | gt := lt_trichotomy (2 * r) den
    · have below : (r / den : ℚ) < 1 / 2 := by
        rw [div_lt_div_iff₀ pos two_pos]
        exact mod_cast (by omega)
      rw [compare_lt_iff_lt.2 lt]
      exact .less (by linarith) (by linarith)
    · have half : (r / den : ℚ) = 1 / 2 := by
        rw [div_eq_div_iff pos.ne' two_ne_zero]
        exact mod_cast (by omega)
      rw [compare_eq_iff_eq.2 eq, half]
      exact .half m
    · have above : (1 / 2 : ℚ) < r / den := by
        rw [div_lt_div_iff₀ two_pos pos]
        exact mod_cast (by omega)
      rw [compare_gt_iff_gt.2 gt]
      exact .more (by linarith) (by linarith)

end Tells

/-! ## Units of the last place -/

/-- The number is next to this many units, which are the smallest ones of which it has less than `2
^ 53`. -/
structure Rounded (q : ℚ) (n : ℕ) (e : ℤ) : Prop where
  least : -1074 ≤ e
  high : q < 2 ^ 53 * 2 ^ e
  low : -1074 < e → 2 ^ 52 * 2 ^ e ≤ q
  near : HalfEven (q / 2 ^ e) n

namespace Rounded

variable {q q' : ℚ} {n n' : ℕ} {e e' : ℤ}

theorem le (rounded : Rounded q n e) : n ≤ 2 ^ 53 := by
  refine rounded.near.mono (.natCast _) ?_
  rw [div_le_iff₀ (by positivity)]
  exact mod_cast rounded.high.le

theorem full (rounded : Rounded q n e) (above : -1074 < e) : 2 ^ 52 ≤ n := by
  refine HalfEven.mono (.natCast _) rounded.near ?_
  rw [le_div_iff₀ (by positivity)]
  exact mod_cast rounded.low above

theorem mono (rounded : Rounded q n e) (rounded' : Rounded q' n' e') (le : q ≤ q') :
    (n * 2 ^ e : ℚ) ≤ n' * 2 ^ e' := by
  obtain lt | rfl | gt := lt_trichotomy e e'
  · have few : (n : ℚ) ≤ 2 ^ 53 := mod_cast rounded.le
    have many : (2 ^ 52 : ℚ) ≤ n' := mod_cast rounded'.full (rounded.least.trans_lt lt)
    calc (n * 2 ^ e : ℚ) ≤ 2 ^ 53 * 2 ^ e := by gcongr
      _ ≤ 2 ^ 52 * 2 ^ e' := units_le_of_lt lt
      _ ≤ n' * 2 ^ e' := by gcongr
  · have : n ≤ n' := rounded.near.mono rounded'.near (by gcongr)
    gcongr
  · -- the larger unit is not taken for the smaller number
    have low := rounded.low (rounded'.least.trans_lt gt)
    have high := rounded'.high
    have := units_le_of_lt gt
    linarith

end Rounded

/-! ## Rounding -/

/-- The exponent that is chosen for a mantissa is that of the smallest units. How many bits the
number has is known from the mantissa, since the rest is less than one. -/
theorem rounded_of_tells {em : ExtendedMantissa} {q : ℚ} {e t : ℤ} (tells : Tells em (q / 2 ^ e))
    (target : t = Format.binary64.targetExponent (totalExponent em.mantissa e)) (fine : e ≤ t) :
    Rounded q (em >>> (t - e).toNat).roundedMantissa t := by
  obtain ⟨low, high⟩ := tells.bounds
  have unit : (0 : ℚ) < 2 ^ e := by positivity
  rw [le_div_iff₀ unit] at low
  rw [div_lt_iff₀ unit] at high
  have target : t = max (em.mantissa.log2 + 1 + e - 53) (-1074) := target
  refine ⟨by omega, ?_, fun above => ?_, ?_⟩
  · have bits : ((em.mantissa + 1 : ℕ) : ℚ) ≤ (2 ^ (em.mantissa.log2 + 1) : ℕ) :=
      mod_cast Nat.lt_log2_self
    push_cast at bits
    calc q < (em.mantissa + 1) * 2 ^ e := high
      _ ≤ 2 ^ (em.mantissa.log2 + 1) * 2 ^ e := by gcongr
      _ = 2 ^ (((em.mantissa.log2 + 1 : ℕ) : ℤ) + e) := by rw [zpow_add₀ two_ne_zero, zpow_natCast]
      _ ≤ 2 ^ (53 + t) := zpow_le_zpow_right₀ (by norm_num) (by omega)
      _ = 2 ^ 53 * 2 ^ t := zpow_add₀ two_ne_zero _ _
  · have some : em.mantissa ≠ 0 := by
      intro none
      rw [none, Nat.log2_zero] at target
      omega
    have bits : ((2 ^ em.mantissa.log2 : ℕ) : ℚ) ≤ em.mantissa := mod_cast Nat.log2_self_le some
    push_cast at bits
    calc (2 ^ 52 * 2 ^ t : ℚ) = 2 ^ ((52 : ℤ) + t) := (zpow_add₀ two_ne_zero _ _).symm
      _ = 2 ^ ((em.mantissa.log2 : ℤ) + e) := by congr 1; omega
      _ = 2 ^ em.mantissa.log2 * 2 ^ e := by rw [zpow_add₀ two_ne_zero, zpow_natCast]
      _ ≤ em.mantissa * 2 ^ e := by gcongr
      _ ≤ q := low
  · have shifted := (tells.shiftRight (t - e).toNat).halfEven
    have scale : (2 : ℚ) ^ t = 2 ^ e * 2 ^ (t - e).toNat := by
      rw [← zpow_natCast, ← zpow_add₀ two_ne_zero]
      congr 1
      omega
    rwa [scale, ← div_div]

/-- A mantissa that was rounded up to `2 ^ 53` is halved. -/
theorem exists_shiftToTargetExponent_eq {n : ℕ} {t : ℤ} (bound : n ≤ 2 ^ 53) (least : -1074 ≤ t)
    (full : -1074 < t → 2 ^ 52 ≤ n) :
    ∃ m e, shiftToTargetExponent Format.binary64 n t .exact = (⟨m, false, false⟩, e) ∧ Normal m e ∧
      (m * 2 ^ e : ℚ) = n * 2 ^ t := by
  obtain few | rfl := bound.lt_or_eq
  · have target : Format.binary64.targetExponent (totalExponent n t) ≤ t := by
      have bits : n.log2 ≤ 52 := by
        obtain rfl | pos := n.eq_zero_or_pos
        · simp
        · exact Nat.le_of_lt_succ ((Nat.log2_lt pos.ne').2 few)
      show max ((n.log2 : ℤ) + 1 + t - 53) (-1074) ≤ t
      omega
    have amount : (Format.binary64.targetExponent (totalExponent n t) - t).toNat = 0 := by omega
    refine ⟨n, t, ?_, ⟨few, least, full⟩, rfl⟩
    rw [shiftToTargetExponent, shiftToExponent]
    simp only [amount, Nat.cast_zero, Int.add_zero]
    rfl
  · -- one bit too many
    have target : Format.binary64.targetExponent (totalExponent (2 ^ 53) t) = t + 1 := by
      rw [totalExponent, Nat.log2_two_pow]
      show max (((53 : ℕ) : ℤ) + 1 + t - 53) (-1074) = t + 1
      omega
    have amount : (t + 1 - t).toNat = 1 := by omega
    have twice : 2 ^ 52 * 2 ^ 1 = 2 ^ 53 := by norm_num
    have halved := shiftRight_exact (2 ^ 52) 1
    rw [twice] at halved
    refine ⟨2 ^ 52, t + 1, ?_, ⟨by norm_num, by omega, fun _ => le_rfl⟩, ?_⟩
    · rw [shiftToTargetExponent, target, shiftToExponent]
      simp only [amount, Nat.cast_one]
      exact congrArg (·, t + 1) halved
    · rw [zpow_add_one₀ two_ne_zero]
      push_cast
      ring

def numberOf (m : ℕ) (e : ℤ) : UnpackedFloat :=
  if h : m = 0 then .zero .positive else .finite .positive m e (Nat.pos_of_ne_zero h)

theorem exists_roundWithAccuracy_eq {m : ℕ} {e : ℤ} {a : Accuracy} {q : ℚ}
    (tells : Tells (.ofMantissaAndAccuracy m a) (q / 2 ^ e))
    (fine : e ≤ Format.binary64.targetExponent (totalExponent m e)) :
    ∃ n t, Rounded q n t ∧ ∃ m' e', Normal m' e' ∧ (m' * 2 ^ e' : ℚ) = n * 2 ^ t ∧
      roundWithAccuracy Format.binary64 .positive m e a = numberOf m' e' := by
  have mantissa : (ExtendedMantissa.ofMantissaAndAccuracy m a).mantissa = m := by
    cases a with
    | exact => rfl
    | inexact o => cases o <;> rfl
  generalize target : Format.binary64.targetExponent (totalExponent m e) = t at fine
  have rounded := rounded_of_tells tells (by rw [mantissa, target]) fine
  obtain ⟨m', e', shifted, normal, same⟩ :=
    exists_shiftToTargetExponent_eq rounded.le rounded.least rounded.full
  have first : shiftToTargetExponent Format.binary64 m e a =
      (ExtendedMantissa.ofMantissaAndAccuracy m a >>> (t - e).toNat, t) := by
    rw [shiftToTargetExponent, target, shiftToExponent]
    exact congrArg (_, ·) (by omega)
  refine ⟨_, t, rounded, m', e', normal, same, ?_⟩
  rw [roundWithAccuracy, first]
  simp only [shifted]
  rfl

/-! ## Too large numbers -/

/-- Numbers from `2 ^ 1024` on are infinite. -/
def clip (q : ℚ) : Value := if q < 2 ^ (1024 : ℤ) then ofRat q else ⊤

theorem clip_mono {p q : ℚ} (le : p ≤ q) : clip p ≤ clip q := by
  unfold clip
  split_ifs with small small'
  · exact ofRat_le_ofRat.2 le
  · exact le_top
  · linarith
  · exact le_rfl

theorem valueOf_pack_numberOf {m : ℕ} {e : ℤ} (normal : Normal m e) :
    valueOf (Float.Model.pack (numberOf m e)).unpack = clip (m * 2 ^ e) := by
  unfold numberOf
  split_ifs with none
  · show ofRat 0 = _
    rw [none, Nat.cast_zero, zero_mul, clip, if_pos (by positivity)]
  · have pos := Nat.pos_of_ne_zero none
    obtain bound | large := le_or_gt e 971
    · have small : (m : ℚ) < 2 ^ 53 := mod_cast normal.small
      have below : (m * 2 ^ e : ℚ) < 2 ^ (1024 : ℤ) := by
        calc (m * 2 ^ e : ℚ) < 2 ^ 53 * 2 ^ e := by gcongr
          _ ≤ 2 ^ 53 * 2 ^ (971 : ℤ) := by gcongr; norm_num
          _ = 2 ^ (1024 : ℤ) := (zpow_add₀ two_ne_zero 53 971).symm
      rw [unpack_pack .positive pos normal bound, clip, if_pos below]
      rfl
    · have full : (2 ^ 52 : ℚ) ≤ m := mod_cast normal.full (by omega)
      have above : (2 ^ (1024 : ℤ) : ℚ) ≤ m * 2 ^ e := by
        calc (2 ^ (1024 : ℤ) : ℚ) = 2 ^ (52 : ℕ) * 2 ^ (972 : ℤ) := zpow_add₀ two_ne_zero 52 972
          _ ≤ m * 2 ^ e := by
            gcongr
            · norm_num
            · exact large
      rw [unpack_pack_of_lt .positive pos large, clip, if_neg above.not_gt]
      rfl

def Rounds (q : ℚ) (x : Float) : Prop :=
  Unsigned x.toModel.unpack ∧ ∃ n e, Rounded q n e ∧ value x = clip (n * 2 ^ e)

theorem number_of_unsigned {x : Float} (unsigned : Unsigned x.toModel.unpack) :
    x.isNaN = false := by
  show x.toModel.unpack.isNaN = false
  generalize x.toModel.unpack = u at unsigned
  cases unsigned <;> rfl

theorem Rounds.mono {p q : ℚ} {x y : Float} (rounds : Rounds p x) (rounds' : Rounds q y)
    (le : p ≤ q) : x ≤ y := by
  obtain ⟨unsigned, n, e, rounded, same⟩ := rounds
  obtain ⟨unsigned', n', e', rounded', same'⟩ := rounds'
  refine le_iff_value.2 ⟨number_of_unsigned unsigned, number_of_unsigned unsigned', ?_⟩
  rw [same, same']
  exact clip_mono (rounded.mono rounded' le)

theorem rounds_pack {m : ℕ} {e : ℤ} {a : Accuracy} {q : ℚ}
    (tells : Tells (.ofMantissaAndAccuracy m a) (q / 2 ^ e))
    (fine : e ≤ Format.binary64.targetExponent (totalExponent m e)) :
    Rounds q (.ofModel (.pack (roundWithAccuracy Format.binary64 .positive m e a))) := by
  refine ⟨(unsigned_roundWithAccuracy m e a).pack, ?_⟩
  obtain ⟨n, t, rounded, m', e', normal, same, result⟩ := exists_roundWithAccuracy_eq tells fine
  refine ⟨n, t, rounded, ?_⟩
  show valueOf (Float.Model.pack (roundWithAccuracy Format.binary64 .positive m e a)).unpack = _
  rw [result, valueOf_pack_numberOf normal, same]

/-! ## Sums -/

variable {x y t : Float} {m m' : ℕ} {e e' : ℤ} {pos : 0 < m} {pos' : 0 < m'}

theorem rounds_self (unpacked : x.toModel.unpack = .finite .positive m e pos) :
    Rounds (m * 2 ^ e) x := by
  obtain ⟨normal, bound⟩ := normal_of_unpack unpacked
  have unit : (0 : ℚ) < 2 ^ e := by positivity
  refine ⟨unpacked ▸ .finite pos, m, e, ⟨normal.least, ?_, fun above => ?_, ?_⟩, ?_⟩
  · have : (m : ℚ) < 2 ^ 53 := mod_cast normal.small
    gcongr
  · have : (2 ^ 52 : ℚ) ≤ m := mod_cast normal.full above
    gcongr
  · rw [mul_div_cancel_right₀ _ unit.ne']
    exact .natCast m
  · rw [← valueOf_pack_numberOf normal, numberOf, dif_neg pos.ne', unpack_pack _ pos normal bound,
      value, unpacked]

/-- Units are made smaller before a sum is rounded, if it has not 53 bits. -/
theorem rounds_round (pos : 0 < m) (e : ℤ) :
    Rounds (m * 2 ^ e) (.ofModel (.pack (UnpackedFloat.round Format.binary64 .positive m e))) := by
  rw [UnpackedFloat.round, decreaseExponent]
  generalize target : Format.binary64.targetExponent (totalExponent m e) = t
  dsimp only
  generalize amount : (e - t).toNat = k
  have scaled : totalExponent (m <<< k) (e - k) = totalExponent m e := by
    rw [totalExponent, Nat.shiftLeft_eq, log2_mul_two_pow k pos, totalExponent]
    omega
  refine rounds_pack ?_ (by rw [scaled, target]; omega)
  have same : (m * 2 ^ e / 2 ^ (e - k) : ℚ) = (m <<< k : ℕ) := by
    rw [mul_div_assoc, ← zpow_sub₀ two_ne_zero, sub_sub_cancel, zpow_natCast, Nat.shiftLeft_eq]
    push_cast
    rfl
  rw [same]
  exact .ofNat _

theorem rounds_add (unpacked : x.toModel.unpack = .finite .positive m e pos)
    (unpacked' : y.toModel.unpack = .finite .positive m' e' pos') :
    Rounds (m * 2 ^ e + m' * 2 ^ e') (x + y) := by
  -- both summands are taken in the smaller unit
  have units {n : ℕ} {t u : ℤ} (le : u ≤ t) : ((n <<< (t - u).toNat : ℕ) * 2 ^ u : ℚ) =
      n * 2 ^ t := by
    rw [Nat.shiftLeft_eq, Nat.cast_mul, Nat.cast_pow, mul_assoc, Nat.cast_two, ← zpow_natCast,
      ← zpow_add₀ two_ne_zero]
    congr 2
    omega
  generalize unit : min e e' = u
  generalize sum : m <<< (e - u).toNat + m' <<< (e' - u).toNat = n
  have some : 0 < n := by
    rw [← sum, Nat.shiftLeft_eq]
    positivity
  have same : (m * 2 ^ e + m' * 2 ^ e' : ℚ) = n * 2 ^ u := by
    rw [← sum, Nat.cast_add, add_mul, units (by omega), units (by omega)]
  have normalized : UnpackedFloat.add Format.binary64 x.toModel.unpack y.toModel.unpack =
      UnpackedFloat.round Format.binary64 .positive n u := by
    rw [unpacked, unpacked', UnpackedFloat.add]
    simp only [unit, decreaseExponent, Sign.apply]
    rw [← Nat.cast_add, sum, UnpackedFloat.normalize, compare_gt_iff_gt.2 (Int.natCast_pos.2 some)]
    rfl
  rw [same]
  show Rounds _ (.ofModel (.pack
    (UnpackedFloat.add Format.binary64 x.toModel.unpack y.toModel.unpack)))
  rw [normalized]
  exact rounds_round some u

theorem le_of_infinity (number : x.isNaN = false)
    (infinite : y.toModel.unpack = .infinity .positive) : x ≤ y := by
  have number' : y.toModel.unpack.isNaN = false := infinite ▸ rfl
  have top : value y = ⊤ := by rw [value, infinite]; rfl
  exact le_iff_value.2 ⟨number, number', top ▸ le_top⟩

theorem unpack_add_of_infinity
    (infinite : UnpackedFloat.add Format.binary64 x.toModel.unpack y.toModel.unpack =
      .infinity .positive) :
    (x + y).toModel.unpack = .infinity .positive := by
  show (Float.Model.pack (UnpackedFloat.add Format.binary64 x.toModel.unpack
    y.toModel.unpack)).unpack = _
  rw [infinite]
  rfl

theorem Unsigned.le_add (unsigned : Unsigned x.toModel.unpack) (nonneg : 0 ≤ y) : x ≤ x + y := by
  have number := number_of_unsigned unsigned
  obtain unsigned' | rfl := nonneg_iff.1 nonneg
  · generalize unpacked : x.toModel.unpack = u at unsigned
    generalize unpacked' : y.toModel.unpack = v at unsigned'
    cases unsigned with
    | infinity =>
      refine le_of_infinity number (unpack_add_of_infinity ?_)
      rw [unpacked, unpacked']
      cases unsigned' <;> rfl
    | zero =>
      obtain rfl : x = 0 := eq_of_pack unpacked
      rwa [(unpacked' ▸ unsigned' : Unsigned y.toModel.unpack).zero_add rfl]
    | finite pos =>
      cases unsigned' with
      | infinity =>
        refine le_of_infinity number (unpack_add_of_infinity ?_)
        rw [unpacked, unpacked']
        rfl
      | zero =>
        rw [(unpacked ▸ .finite pos : Unsigned x.toModel.unpack).add_zero
          (beq_zero_iff.2 ⟨_, unpacked'⟩)]
        exact le_self number
      | finite pos' =>
        refine (rounds_self unpacked).mono (rounds_add unpacked unpacked')
          (le_add_of_nonneg_right ?_)
        positivity
  · rw [unsigned.add_zero rfl]
    exact le_self number

/-! ## Quotients -/

theorem log2_shiftLeft_div (pos : 0 < m) (pos' : 0 < m') {k : ℕ}
    (enough : m'.log2 + 53 ≤ m.log2 + k) :
    52 ≤ (m <<< k / m').log2 := by
  have full : 2 ^ 52 ≤ m <<< k / m' := by
    rw [Nat.le_div_iff_mul_le pos', Nat.shiftLeft_eq]
    calc 2 ^ 52 * m' ≤ 2 ^ 52 * 2 ^ (m'.log2 + 1) := Nat.mul_le_mul_left _ Nat.lt_log2_self.le
      _ = 2 ^ (m'.log2 + 53) := by rw [← pow_add]; congr 1; omega
      _ ≤ 2 ^ (m.log2 + k) := Nat.pow_le_pow_right two_pos enough
      _ = 2 ^ m.log2 * 2 ^ k := pow_add _ _ _
      _ ≤ m * 2 ^ k := Nat.mul_le_mul_right _ (Nat.log2_self_le pos.ne')
  exact (Nat.le_log2 (by omega)).2 full

/-- A quotient is taken with at least 53 bits, or down to the smallest unit. -/
theorem rounds_div (unpacked : x.toModel.unpack = .finite .positive m e pos)
    (unpacked' : t.toModel.unpack = .finite .positive m' e' pos') :
    Rounds (m * 2 ^ e / (m' * 2 ^ e')) (x / t) := by
  have den : (m' : ℚ) ≠ 0 := mod_cast pos'.ne'
  generalize unit : min (e - e')
    (Format.binary64.targetExponent (totalExponent m e - totalExponent m' e')) = u
  generalize amount : (e - e' - u).toNat = k
  have target : min (e - e') (max (m.log2 + 1 + e - (m'.log2 + 1 + e') - 53) (-1074)) = u := unit
  have core : divCore Format.binary64 m e m' e' =
      (m <<< k / m', u, accuracyOfFraction (m <<< k % m') m') := by
    simp only [divCore, unit, amount]
  have fine : u ≤ Format.binary64.targetExponent (totalExponent (m <<< k / m') u) := by
    show u ≤ max ((m <<< k / m').log2 + 1 + u - 53) (-1074)
    by_cases small : u ≤ -1074
    · exact small.trans (le_max_right _ _)
    · have := log2_shiftLeft_div pos pos' (k := k) (by omega)
      omega
  have same : (m * 2 ^ e / (m' * 2 ^ e') / 2 ^ u : ℚ) = (m <<< k : ℕ) / m' := by
    have scale : (2 : ℚ) ^ e = 2 ^ k * 2 ^ e' * 2 ^ u := by
      rw [← zpow_natCast, ← zpow_add₀ two_ne_zero, ← zpow_add₀ two_ne_zero]
      congr 1
      omega
    rw [scale, Nat.shiftLeft_eq, Nat.cast_mul, Nat.cast_pow]
    field_simp
    rfl
  have tells := Tells.ofFraction (m <<< k) pos'
  rw [← same] at tells
  show Rounds _ (.ofModel (.pack
    (UnpackedFloat.div Format.binary64 x.toModel.unpack t.toModel.unpack)))
  rw [unpacked, unpacked', UnpackedFloat.div, core]
  exact rounds_pack tells fine

theorem Unsigned.div (unsigned : Unsigned x.toModel.unpack) (pos : 0 < t) (finite : t.isFinite) :
    Unsigned (x / t).toModel.unpack := by
  obtain ⟨m', e', pos', unpacked'⟩ := exists_unpack_eq_finite pos finite
  generalize unpacked : x.toModel.unpack = u at unsigned
  cases unsigned with
  | infinity =>
    refine Unsigned.pack (u := UnpackedFloat.div Format.binary64 x.toModel.unpack t.toModel.unpack)
      ?_
    rw [unpacked, unpacked']
    exact .infinity
  | zero =>
    obtain rfl : x = 0 := eq_of_pack unpacked
    exact (zero_div pos finite).symm ▸ .zero
  | finite => exact (rounds_div unpacked unpacked').1

theorem Unsigned.div_le_div (unsigned : Unsigned x.toModel.unpack)
    (unsigned' : Unsigned y.toModel.unpack) (le : x ≤ y) (pos : 0 < t) (finite : t.isFinite) :
    x / t ≤ y / t := by
  have quotient := unsigned.div pos finite
  have quotient' := unsigned'.div pos finite
  have order := le_iff.1 le
  obtain ⟨m', e', pos', divisor⟩ := exists_unpack_eq_finite pos finite
  generalize unpacked : x.toModel.unpack = u at unsigned order
  generalize unpacked' : y.toModel.unpack = v at unsigned' order
  cases unsigned' with
  | infinity =>
    refine le_of_infinity (number_of_unsigned quotient) ?_
    show (Float.Model.pack (UnpackedFloat.div Format.binary64 y.toModel.unpack
      t.toModel.unpack)).unpack = _
    rw [unpacked', divisor, UnpackedFloat.div]
    rfl
  | zero =>
    obtain rfl : y = 0 := eq_of_pack unpacked'
    cases unsigned with
    | zero =>
      obtain rfl : x = 0 := eq_of_pack unpacked
      rw [zero_div pos finite]
      rfl
    | _ => cases order
  | finite =>
    cases unsigned with
    | infinity => cases order
    | zero =>
      obtain rfl : x = 0 := eq_of_pack unpacked
      rw [zero_div pos finite]
      exact nonneg_iff.2 (.inl quotient')
    | finite =>
      refine (rounds_div unpacked divisor).mono (rounds_div unpacked' divisor) ?_
      have values := (le_iff_value.1 le).2.2
      rw [value, unpacked, value, unpacked'] at values
      exact div_le_div_of_nonneg_right (ofRat_le_ofRat.1 values) (by positivity)

end CellularAutomaton.Binary64
