import CellularAutomaton.State
import Mathlib

/-!
# Whole numbers read back

The printed form of a number is read as the same number, by each of the readers whose range holds
it.
-/

namespace CellularAutomaton.Numeral

/-! ## Digits -/

theorem natural_ne_nil (n : ℕ) : natural n ≠ [] := Nat.toDigits_ne_nil

theorem isDigit_of_mem_natural {n : ℕ} {c : Char} (inside : c ∈ natural n) : c.isDigit :=
  Nat.isDigit_of_mem_toDigits (by decide) (by decide) inside

theorem exists_natural_eq_cons (n : ℕ) : ∃ c cs, natural n = c :: cs ∧ c.isDigit := by
  obtain ⟨c, cs, same⟩ := List.exists_cons_of_ne_nil (natural_ne_nil n)
  exact ⟨c, cs, same, isDigit_of_mem_natural (by rw [same]; exact List.mem_cons_self)⟩

theorem ofDigits?_natural (n : ℕ) : ofDigits? (natural n) = some n := by
  have digits : (natural n).all Char.isDigit := List.all_eq_true.2 fun c => isDigit_of_mem_natural
  have some : (natural n).isEmpty = false := by simpa using natural_ne_nil n
  rw [ofDigits?, digits, some]
  exact congrArg Option.some Nat.ofDigitChars_ten_toDigits

/-! ## Numbers without a sign -/

theorem readNatural?_natural (n : ℕ) : readNatural? (natural n) = some n := by
  obtain ⟨c, cs, same, digit⟩ := exists_natural_eq_cons n
  have back := ofDigits?_natural n
  rw [same] at back ⊢
  unfold readNatural?
  split
  · next plus =>
    cases plus
    cases digit
  · exact back

theorem readUInt32?_natural (u : UInt32) : readUInt32? (natural u.toNat) = some u := by
  rw [readUInt32?, readNatural?_natural, Option.bind_some, if_pos u.toNat_lt, UInt32.ofNat_toNat]

theorem readSize?_natural {n : ℕ} (small : n < UInt64.size) : readSize? (natural n) = some n := by
  rw [readSize?, readNatural?_natural, Option.bind_some, if_pos small]

/-! ## Numbers with a sign -/

theorem readInteger?_natural (n : ℕ) : readInteger? (natural n) = some (n : ℤ) := by
  obtain ⟨c, cs, same, digit⟩ := exists_natural_eq_cons n
  have back := ofDigits?_natural n
  rw [same] at back ⊢
  unfold readInteger?
  split
  · next minus =>
    cases minus
    cases digit
  · next plus =>
    cases plus
    cases digit
  · rw [back]
    rfl

theorem readInteger?_integer (n : ℤ) : readInteger? (integer n) = some n := by
  unfold integer
  split_ifs with negative
  · rw [readInteger?, ofDigits?_natural]
    show some (-(n.natAbs : ℤ)) = some n
    congr 1
    omega
  · rw [readInteger?_natural]
    congr 1
    omega

theorem int32?_toInt (s : Int32) : int32? s.toInt = some s := by
  rw [int32?, if_pos ⟨s.minValue_le_toInt, s.toInt_le⟩, Int32.ofInt_toInt]

theorem readInt32?_integer (s : Int32) : readInt32? (integer s.toInt) = some s := by
  rw [readInt32?, readInteger?_integer, Option.bind_some, int32?_toInt]

theorem mem_integer {n : ℤ} {c : Char} (inside : c ∈ integer n) : c = '-' ∨ c.isDigit := by
  unfold integer at inside
  split_ifs at inside
  · rcases List.mem_cons.1 inside with rfl | inside
    · exact .inl rfl
    · exact .inr (isDigit_of_mem_natural inside)
  · exact .inr (isDigit_of_mem_natural inside)

theorem integer_ne_nil (n : ℤ) : integer n ≠ [] := by
  unfold integer
  split_ifs
  · exact List.cons_ne_nil _ _
  · exact natural_ne_nil _

/-! ## What a reader accepts -/

/-- One or more digits and signs, as every number is written. -/
structure Digital (cs : List Char) : Prop where
  nonempty : cs ≠ []
  digital : ∀ c ∈ cs, c = '-' ∨ c = '+' ∨ c.isDigit

theorem Digital.of_ofDigits? {cs : List Char} {n : ℕ} (read : ofDigits? cs = some n) :
    Digital cs := by
  unfold ofDigits? at read
  split_ifs at read with refused
  simp only [Bool.or_eq_true, Bool.not_eq_true', not_or, Bool.not_eq_true,
    List.isEmpty_eq_false_iff, Bool.not_eq_false, List.all_eq_true] at refused
  exact ⟨refused.1, fun c inside => .inr (.inr (refused.2 c inside))⟩

theorem Digital.cons {c : Char} {cs : List Char} (sign : c = '-' ∨ c = '+') (digital : Digital cs) :
    Digital (c :: cs) := by
  refine ⟨List.cons_ne_nil _ _, List.forall_mem_cons.2 ⟨?_, digital.digital⟩⟩
  rcases sign with rfl | rfl
  · exact .inl rfl
  · exact .inr (.inl rfl)

theorem Digital.of_readInt32? {cs : List Char} {s : Int32} (read : readInt32? cs = some s) :
    Digital cs := by
  obtain ⟨n, read, -⟩ := Option.bind_eq_some_iff.1 read
  unfold readInteger? at read
  split at read
  · obtain ⟨m, digits, -⟩ := Option.map_eq_some_iff.1 read
    obtain ⟨k, digits, -⟩ := Option.bind_eq_some_iff.1 digits
    exact .cons (.inl rfl) (.of_ofDigits? digits)
  · obtain ⟨m, digits, -⟩ := Option.map_eq_some_iff.1 read
    obtain ⟨k, digits, -⟩ := Option.bind_eq_some_iff.1 digits
    exact .cons (.inr rfl) (.of_ofDigits? digits)
  · obtain ⟨m, digits, -⟩ := Option.map_eq_some_iff.1 read
    obtain ⟨k, digits, -⟩ := Option.bind_eq_some_iff.1 digits
    exact .of_ofDigits? digits

theorem Digital.of_readUInt32? {cs : List Char} {u : UInt32} (read : readUInt32? cs = some u) :
    Digital cs := by
  obtain ⟨n, read, -⟩ := Option.bind_eq_some_iff.1 read
  unfold readNatural? at read
  split at read
  · exact .cons (.inr rfl) (.of_ofDigits? read)
  · exact .of_ofDigits? read

end CellularAutomaton.Numeral
