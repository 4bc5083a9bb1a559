import CellularAutomaton.Proofs.Sampling
import CellularAutomaton.Proofs.Unsigned

/-!
# Tables of cumulative probabilities

The table for drawing states is made of sums of probabilities that are not negative. A probability
of zero does not add anything to these, so its entry repeats the one before, and the last entry but
one is one already if the last probability is zero. Such an entry is never the first one that is not
less than a draw, unless it is the very first of all and the draw is zero.
-/

namespace CellularAutomaton

open Binary64

variable {ps : List Float}

/-! ## Sums of probabilities -/

theorem unsigned_foldl {sum : Float} (unsigned : Unsigned sum.toModel.unpack)
    (nonneg : ∀ p ∈ ps, 0 ≤ p) :
    Unsigned (ps.foldl (· + ·) sum).toModel.unpack := by
  induction ps generalizing sum with
  | nil => exact unsigned
  | cons p ps ih =>
    rw [List.forall_mem_cons] at nonneg
    exact ih (unsigned.add nonneg.1) nonneg.2

theorem totalProbability_cases (nonneg : ∀ p ∈ ps, 0 ≤ p) :
    totalProbability ps = ps.foldl (· + ·) 0 ∨ totalProbability ps = -0.0 := by
  unfold totalProbability
  induction ps with
  | nil => exact .inr rfl
  | cons p ps ih =>
    rw [List.forall_mem_cons] at nonneg
    rw [List.foldl_cons, List.foldl_cons]
    obtain unsigned | rfl := nonneg_iff.1 nonneg.1
    · rw [unsigned.zero_add rfl, unsigned.zero_add rfl]
      exact .inl rfl
    · exact ih nonneg.2

theorem totalProbability_nonneg (nonneg : ∀ p ∈ ps, 0 ≤ p) : 0 ≤ totalProbability ps := by
  refine nonneg_iff.2 ((totalProbability_cases nonneg).imp_left fun same => ?_)
  rw [same]
  exact unsigned_foldl .zero nonneg

theorem totalProbability_of_pos (nonneg : ∀ p ∈ ps, 0 ≤ p) (pos : 0 < totalProbability ps) :
    ps.foldl (· + ·) 0 = totalProbability ps := by
  obtain same | negative := totalProbability_cases nonneg
  · exact same.symm
  · rw [negative] at pos
    cases pos

namespace Sampler

theorem exists_ofProbabilities_eq_ok_iff :
    (∃ sampler, ofProbabilities ps = .ok sampler) ↔
      (totalProbability ps).isFinite ∧ 0 < totalProbability ps := by
  unfold ofProbabilities
  dsimp only
  split_ifs with valid <;> simp [valid]

theorem sample_eq_ok_iff {sampler : Sampler} {states : List State} {draw : Float} {s : State} :
    sampler.sample states draw = .ok s ↔
      ∃ i, sampler.cumulative.findIdx? (draw ≤ ·) = some i ∧ states[i]? = some s := by
  rw [← Option.bind_eq_some_iff, sample]
  cases (sampler.cumulative.findIdx? (draw ≤ ·)).bind (states[·]?) <;> simp

/-! ## Entries of probability zero -/

theorem tableFrom_cons_cons (total sum p q : Float) (ps : List Float) :
    tableFrom total sum (p :: q :: ps) = (sum + p) / total :: tableFrom total (sum + p) (q :: ps) :=
      rfl

/-- The entry of a probability of zero is the quotient of the sum before it, and so is the entry
before it. -/
theorem findIdx?_tableFrom_of_zero {total sum draw p : Float} {i : ℕ}
    (unsigned : Unsigned sum.toModel.unpack) (whole : ps.foldl (· + ·) sum = total)
    (nonneg : ∀ p ∈ ps, 0 ≤ p) (finite : total.isFinite) (pos : 0 < total)
    (found : (tableFrom total sum ps).findIdx? (draw ≤ ·) = some i) (listed : ps[i]? = some p)
    (zero : (p == 0) = true) : i = 0 ∧ draw ≤ sum / total := by
  induction ps generalizing sum i with
  | nil => cases listed
  | cons q ps ih =>
    rw [List.forall_mem_cons] at nonneg
    cases ps with
    | nil =>
      -- the last entry is one, and so is the quotient of the sum of all others
      obtain ⟨rfl, below⟩ : i = 0 ∧ draw ≤ 1.0 := by
        simpa [tableFrom, and_comm, eq_comm] using found
      cases listed
      have same : sum = total := (unsigned.add_zero zero).symm.trans whole
      refine ⟨rfl, ?_⟩
      rwa [same, div_self pos finite]
    | cons r ps =>
      rw [tableFrom_cons_cons, List.findIdx?_cons] at found
      split_ifs at found with first
      · cases found
        cases listed
        rw [unsigned.add_zero zero] at first
        exact ⟨rfl, of_decide_eq_true first⟩
      · obtain ⟨j, later, rfl⟩ := Option.map_eq_some_iff.1 found
        obtain ⟨-, before⟩ := ih (unsigned.add nonneg.1) whole nonneg.2 later listed
        exact absurd (decide_eq_true before) first

theorem findIdx?_tableFrom_zero {total q : Float} (finite : total.isFinite) (pos : 0 < total)
    (zero : (q == 0) = true) (ps : List Float) :
    (tableFrom total 0 (q :: ps)).findIdx? ((0 : Float) ≤ ·) = some 0 := by
  have unsigned : Unsigned (0 : Float).toModel.unpack := .zero
  cases ps with
  | nil => rfl
  | cons r ps =>
    rw [tableFrom_cons_cons, List.findIdx?_cons, unsigned.add_zero zero, zero_div pos finite]
    rfl

/-- An entry of probability zero is taken if and only if it is the first one and the draw is
zero. -/
theorem zero_drawn_iff {sampler : Sampler} {word : UInt64} {i : ℕ} {p : Float}
    (nonneg : ∀ p ∈ ps, 0 ≤ p) (made : ofProbabilities ps = .ok sampler)
    (found : sampler.cumulative.findIdx? (Random.draw word ≤ ·) = some i)
    (listed : ps[i]? = some p) :
    (p == 0) = true ↔ Random.draw word = 0 ∧ ∃ q, ps.head? = some q ∧ (q == 0) = true := by
  obtain ⟨finite, pos⟩ := exists_ofProbabilities_eq_ok_iff.1 ⟨sampler, made⟩
  obtain ⟨-, table⟩ := cumulative_of_ofProbabilities made
  rw [table] at found
  constructor
  · intro zero
    have unsigned : Unsigned (0 : Float).toModel.unpack := .zero
    have total := totalProbability_of_pos nonneg pos
    obtain ⟨rfl, below⟩ := findIdx?_tableFrom_of_zero unsigned total nonneg finite pos
      found listed zero
    rw [zero_div pos finite, draw_le_zero_iff] at below
    exact ⟨below, p, List.head?_eq_getElem?.trans listed, zero⟩
  · rintro ⟨least, q, first, zero⟩
    obtain ⟨rest, rfl⟩ := List.head?_eq_some_iff.1 first
    rw [least, findIdx?_tableFrom_zero finite pos zero] at found
    cases found
    cases listed
    exact zero

end Sampler

end CellularAutomaton
