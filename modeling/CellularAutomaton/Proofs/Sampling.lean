import CellularAutomaton.Proofs.Binary64
import CellularAutomaton.Sampler

/-!
# Sampling always finds a state

The last entry of a table of cumulative probabilities is one, and no draw is larger. So every draw
finds an entry, and a state if there are not more probabilities than states.
-/

namespace CellularAutomaton.Sampler

theorem length_tableFrom (total sum : Float) (ps : List Float) :
    (tableFrom total sum ps).length = ps.length := by
  fun_induction tableFrom total sum ps with
  | case1 => rfl
  | case2 => rfl
  | case3 sum p q rest ih => simp [ih]

theorem one_mem_tableFrom (total sum : Float) {ps : List Float} (some : ps ≠ []) :
    1.0 ∈ tableFrom total sum ps := by
  fun_induction tableFrom total sum ps with
  | case1 => exact absurd rfl some
  | case2 => simp
  | case3 sum p q rest ih => exact List.mem_cons_of_mem _ (ih (by simpa using ‹_›))

theorem cumulative_of_ofProbabilities {ps : List Float} {sampler : Sampler}
    (made : ofProbabilities ps = .ok sampler) :
    ps ≠ [] ∧ sampler.cumulative = tableFrom (totalProbability ps) 0 ps := by
  constructor
  · rintro rfl
    cases made
  · unfold ofProbabilities at made
    dsimp only at made
    split_ifs at made
    cases made
    rfl

theorem exists_sample_eq_ok {ps : List Float} {sampler : Sampler} {states : List State}
    (made : ofProbabilities ps = .ok sampler) (enough : ps.length ≤ states.length) (word : UInt64) :
    ∃ s ∈ states, sampler.sample states (Random.draw word) = .ok s := by
  obtain ⟨nonempty, table⟩ := cumulative_of_ofProbabilities made
  have reached : (sampler.cumulative.findIdx? (Random.draw word ≤ ·)).isSome := by
    rw [List.findIdx?_isSome, List.any_eq_true, table]
    exact ⟨1.0, one_mem_tableFrom _ _ nonempty, by simpa using Binary64.draw_le_one word⟩
  obtain ⟨i, found⟩ := Option.isSome_iff_exists.1 reached
  have inside : i < states.length := by
    have := (List.findIdx?_eq_some_iff_findIdx_eq.1 found).1
    rw [table, length_tableFrom] at this
    omega
  refine ⟨states[i], List.getElem_mem _, ?_⟩
  simp [sample, found, inside]

end CellularAutomaton.Sampler
