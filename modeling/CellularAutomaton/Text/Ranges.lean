/-!
# Sets of characters given by ranges of code points
-/
namespace CellularAutomaton.Text

/-- Whether `n` lies in one of the ranges, which are closed and ascend. -/
def inRanges : List (Nat × Nat) → Nat → Bool
  | [], _ => false
  | (first, last) :: rest, n => first ≤ n && (n ≤ last || inRanges rest n)

theorem inRanges_eq_false_of_lt {first last n : Nat} {rs : List (Nat × Nat)} (below : n < first) :
    inRanges ((first, last) :: rs) n = false := by
  simp [inRanges, Nat.not_le_of_lt below]

theorem exists_range_of_inRanges {rs : List (Nat × Nat)} {n : Nat} (h : inRanges rs n = true) :
    ∃ r ∈ rs, r.1 ≤ n ∧ n ≤ r.2 := by
  induction rs with
  | nil => simp [inRanges] at h
  | cons r rs ih =>
    simp only [inRanges, Bool.and_eq_true, Bool.or_eq_true, decide_eq_true_eq] at h
    rcases h with ⟨lo, hi | rest⟩
    · exact ⟨r, by simp, lo, hi⟩
    · obtain ⟨q, hq, bounds⟩ := ih rest
      exact ⟨q, by simp [hq], bounds⟩

theorem inRanges_eq_false_of_apart {rs qs : List (Nat × Nat)} {n : Nat}
    (apart : ∀ r ∈ rs, ∀ q ∈ qs, r.2 < q.1 ∨ q.2 < r.1) (inside : inRanges rs n = true) :
    inRanges qs n = false := by
  obtain ⟨r, hr, lower, upper⟩ := exists_range_of_inRanges inside
  rw [← Bool.not_eq_true]
  intro also
  obtain ⟨q, hq, lower', upper'⟩ := exists_range_of_inRanges also
  have := apart r hr q hq
  omega

end CellularAutomaton.Text
