import CellularAutomaton.Proofs.Distribution
import CellularAutomaton.Proofs.Rounding

/-!
# Sampling inverts the cumulative distribution

The running sums of probabilities that are not negative do not decrease, and neither do their
quotients by the total. So the table for drawing states ascends from zero to one, also after its
last entry was replaced. The first entry that is not less than a draw is then found by the two
entries that enclose the draw, and the draws below one are divided among the states in their order.
-/

namespace CellularAutomaton

open Binary64

variable {ps : List Float} {sampler : Sampler}

/-! ## Running sums -/

/-- What is known of a running sum to which these probabilities are still added. -/
structure RunningSum (total sum : Float) (ps : List Float) : Prop where
  unsigned : Unsigned sum.toModel.unpack
  nonneg : ∀ p ∈ ps, 0 ≤ p
  whole : ps.foldl (· + ·) sum = total
  finite : total.isFinite
  pos : 0 < total

namespace RunningSum

variable {total sum p : Float}

theorem begin (nonneg : ∀ p ∈ ps, 0 ≤ p) (made : Sampler.ofProbabilities ps = .ok sampler) :
    RunningSum (totalProbability ps) 0 ps := by
  obtain ⟨finite, pos⟩ := Sampler.exists_ofProbabilities_eq_ok_iff.1 ⟨sampler, made⟩
  exact ⟨.zero, nonneg, totalProbability_of_pos nonneg pos, finite, pos⟩

theorem step (running : RunningSum total sum (p :: ps)) : RunningSum total (sum + p) ps := by
  obtain ⟨unsigned, nonneg, whole, finite, pos⟩ := running
  rw [List.forall_mem_cons] at nonneg
  exact ⟨unsigned.add nonneg.1, nonneg.2, whole, finite, pos⟩

theorem le_next (running : RunningSum total sum (p :: ps)) : sum / total ≤ (sum + p) / total := by
  have larger := running.unsigned.le_add (running.nonneg p List.mem_cons_self)
  exact running.unsigned.div_le_div running.step.unsigned larger running.pos running.finite

theorem le_one (running : RunningSum total sum ps) : sum / total ≤ 1.0 := by
  induction ps generalizing sum with
  | nil =>
    obtain rfl : sum = total := running.whole
    rw [div_self running.pos running.finite]
    rfl
  | cons p ps ih => exact le_trans running.le_next (ih running.step)

theorem mem_tableFrom (running : RunningSum total sum ps) :
    ∀ c ∈ Sampler.tableFrom total sum ps, sum / total ≤ c ∧ c ≤ 1.0 := by
  induction ps generalizing sum with
  | nil => simp [Sampler.tableFrom]
  | cons p ps ih =>
    cases ps with
    | nil => simpa [Sampler.tableFrom] using ⟨running.le_one, rfl⟩
    | cons q ps =>
      rw [Sampler.tableFrom_cons_cons, List.forall_mem_cons]
      refine ⟨⟨running.le_next, running.step.le_one⟩, fun c member => ?_⟩
      obtain ⟨low, high⟩ := ih running.step c member
      exact ⟨le_trans running.le_next low, high⟩

theorem pairwise_tableFrom (running : RunningSum total sum ps) :
    (Sampler.tableFrom total sum ps).Pairwise (· ≤ ·) := by
  induction ps generalizing sum with
  | nil => exact .nil
  | cons p ps ih =>
    cases ps with
    | nil => exact List.pairwise_singleton _ _
    | cons q ps =>
      rw [Sampler.tableFrom_cons_cons, List.pairwise_cons]
      exact ⟨fun c member => (running.step.mem_tableFrom c member).1, ih running.step⟩

end RunningSum

namespace Sampler

theorem getElem?_tableFrom (total sum : Float) {i : ℕ} (inside : i + 1 < ps.length) :
    (tableFrom total sum ps)[i]? = some ((ps.take (i + 1)).foldl (· + ·) sum / total) := by
  fun_induction tableFrom total sum ps generalizing i with
  | case1 => cases inside
  | case2 => simp at inside
  | case3 sum p ps more ih =>
    cases i with
    | zero => rfl
    | succ i => exact ih (Nat.lt_of_succ_lt_succ inside)

theorem getLast?_tableFrom (total sum : Float) (nonempty : ps ≠ []) :
    (tableFrom total sum ps).getLast? = some 1.0 := by
  fun_induction tableFrom total sum ps with
  | case1 => exact absurd rfl nonempty
  | case2 => rfl
  | case3 sum p ps more ih =>
    rw [List.getLast?_cons, ih more]
    rfl

/-! ## Tables -/

structure Distributes (sampler : Sampler) (n : ℕ) : Prop where
  length : sampler.cumulative.length = n
  ascending : sampler.cumulative.Pairwise (· ≤ ·)
  unit : ∀ c ∈ sampler.cumulative, 0 ≤ c ∧ c ≤ 1.0
  last : sampler.cumulative.getLast? = some 1.0

theorem distributes_of_ofProbabilities (nonneg : ∀ p ∈ ps, 0 ≤ p)
    (made : ofProbabilities ps = .ok sampler) :
    sampler.Distributes ps.length := by
  obtain ⟨nonempty, table⟩ := cumulative_of_ofProbabilities made
  have running := RunningSum.begin nonneg made
  have least := zero_div running.pos running.finite
  constructor
  · rw [table, length_tableFrom]
  · rw [table]
    exact running.pairwise_tableFrom
  · intro c member
    rw [table] at member
    have bounds := running.mem_tableFrom c member
    rwa [least] at bounds
  · rw [table, getLast?_tableFrom _ _ nonempty]

/-! ## Draws -/

/-- The entry at the index is the first one that is not less than the draw. -/
structure Chooses (sampler : Sampler) (draw : Float) (i : ℕ) : Prop where
  reached : ∃ c, sampler.cumulative[i]? = some c ∧ draw ≤ c
  first : ∀ j < i, ∀ c, sampler.cumulative[j]? = some c → ¬draw ≤ c

variable {n i i' : ℕ} {draw draw' before entry : Float}

theorem chooses_iff : sampler.Chooses draw i ↔ sampler.cumulative.findIdx? (draw ≤ ·) = some i := by
  rw [List.findIdx?_eq_some_iff_getElem]
  constructor
  · rintro ⟨⟨c, listed, below⟩, first⟩
    obtain ⟨inside, rfl⟩ := List.getElem?_eq_some_iff.1 listed
    exact ⟨inside, decide_eq_true below, fun j earlier found =>
      first j earlier _ (List.getElem?_eq_getElem _) (of_decide_eq_true found)⟩
  · rintro ⟨inside, below, first⟩
    refine ⟨⟨_, List.getElem?_eq_getElem inside, of_decide_eq_true below⟩,
      fun j earlier c listed below => ?_⟩
    obtain ⟨inside, rfl⟩ := List.getElem?_eq_some_iff.1 listed
    exact first j earlier (decide_eq_true below)

theorem Chooses.sample_eq {states : List State} {s : State} (chooses : sampler.Chooses draw i)
    (listed : states[i]? = some s) : sampler.sample states draw = .ok s :=
  sample_eq_ok_iff.2 ⟨i, chooses_iff.1 chooses, listed⟩

theorem Chooses.mono (chooses : sampler.Chooses draw i) (chooses' : sampler.Chooses draw' i')
    (le : draw ≤ draw') :
    i ≤ i' := by
  by_contra later
  obtain ⟨c, listed, below⟩ := chooses'.reached
  exact chooses.first i' (Nat.lt_of_not_le later) c listed (le_trans le below)

theorem Chooses.unique (chooses : sampler.Chooses draw i)
    (chooses' : sampler.Chooses draw i') : i = i' :=
  Option.some.inj ((chooses_iff.1 chooses).symm.trans (chooses_iff.1 chooses'))

theorem chooses_zero_iff (listed : sampler.cumulative[0]? = some entry) :
    sampler.Chooses draw 0 ↔ draw ≤ entry := by
  constructor
  · rintro ⟨⟨c, listed', below⟩, -⟩
    cases listed.symm.trans listed'
    exact below
  · exact fun below => ⟨⟨entry, listed, below⟩, fun j before => absurd before j.not_lt_zero⟩

namespace Distributes

variable (distributes : sampler.Distributes n)
include distributes

theorem number_of_mem {c : Float} (member : c ∈ sampler.cumulative) : c.isNaN = false :=
  (le_iff_value.1 (distributes.unit c member).1).2.1

theorem le_of_le {j : ℕ} {c : Float} (le : j ≤ i) (listed : sampler.cumulative[j]? = some c)
    (listed' : sampler.cumulative[i]? = some entry) : c ≤ entry := by
  obtain ⟨inside, rfl⟩ := List.getElem?_eq_some_iff.1 listed
  obtain ⟨inside', rfl⟩ := List.getElem?_eq_some_iff.1 listed'
  obtain rfl | lt := le.eq_or_lt
  · exact le_self (distributes.number_of_mem (List.getElem_mem inside))
  · exact List.pairwise_iff_getElem.1 distributes.ascending j i inside inside' lt

/-- An entry is the first one not less than a draw if the draw is above the entry before. -/
theorem chooses_succ_iff (previous : sampler.cumulative[i]? = some before)
    (listed : sampler.cumulative[i + 1]? = some entry) :
    sampler.Chooses draw (i + 1) ↔ before < draw ∧ draw ≤ entry := by
  have number := distributes.number_of_mem (List.mem_of_getElem? previous)
  constructor
  · rintro ⟨⟨c, listed', below⟩, first⟩
    cases listed.symm.trans listed'
    obtain none | above := (not_le number).1 (first i i.lt_succ_self before previous)
    · rw [(le_iff_value.1 below).1] at none
      cases none
    · exact ⟨above, below⟩
  · rintro ⟨above, below⟩
    refine ⟨⟨entry, listed, below⟩, fun j earlier c listed' => ?_⟩
    have smaller := distributes.le_of_le (Nat.le_of_lt_succ earlier) listed' previous
    exact (not_le (distributes.number_of_mem (List.mem_of_getElem? listed'))).2
      (.inr (lt_of_le_of_lt smaller above))

theorem exists_chooses (bound : draw ≤ 1.0) : ∃ i < n, sampler.Chooses draw i := by
  have found : (sampler.cumulative.findIdx? (draw ≤ ·)).isSome := by
    rw [List.findIdx?_isSome, List.any_eq_true]
    exact ⟨1.0, List.mem_of_getLast? distributes.last, decide_eq_true bound⟩
  obtain ⟨i, found⟩ := Option.isSome_iff_exists.1 found
  have inside := (List.findIdx?_eq_some_iff_findIdx_eq.1 found).1
  exact ⟨i, distributes.length ▸ inside, chooses_iff.2 found⟩

/-- No entry is large enough for a draw above one, and no number is compared with what is none. -/
theorem sample_eq_error (states : List State) (outside : 1.0 < draw ∨ draw.isNaN) :
    sampler.sample states draw = .error (.sampleOutOfRange draw) := by
  have none : sampler.cumulative.findIdx? (draw ≤ ·) = none := by
    rw [List.findIdx?_eq_none_iff]
    intro c member
    refine decide_eq_false fun below => ?_
    have reached := le_trans below (distributes.unit c member).2
    exact (not_le rfl).2 outside.symm reached
  rw [sample, none]
  rfl

end Distributes

/-- The table is a cumulative distribution, whose entries are the quotients of the running sums and
at last one. Every draw up to one is taken to the first entry that it does not exceed: a larger draw
to a later entry, if not to the same one, and each entry has the draws between the one before and
itself. -/
theorem sample_inverts_cumulative (nonneg : ∀ p ∈ ps, 0 ≤ p)
    (made : ofProbabilities ps = .ok sampler) :
    sampler.Distributes ps.length ∧
      (∀ i, i + 1 < ps.length →
        sampler.cumulative[i]? = some ((ps.take (i + 1)).foldl (· + ·) 0 / totalProbability ps)) ∧
      (∀ states : List State, ps.length ≤ states.length → ∀ draw,
        (draw ≤ 1.0 → ∃ i s, sampler.Chooses draw i ∧ states[i]? = some s ∧
          sampler.sample states draw = .ok s) ∧
        (1.0 < draw ∨ draw.isNaN → sampler.sample states draw = .error (.sampleOutOfRange draw))) ∧
      (∀ draw draw' i i', sampler.Chooses draw i → sampler.Chooses draw' i' →
        draw ≤ draw' → i ≤ i') ∧
      (∀ draw entry, sampler.cumulative[0]? = some entry →
        (sampler.Chooses draw 0 ↔ draw ≤ entry)) ∧
      (∀ draw i before entry, sampler.cumulative[i]? = some before →
        sampler.cumulative[i + 1]? = some entry →
        (sampler.Chooses draw (i + 1) ↔ before < draw ∧ draw ≤ entry)) ∧
      ∀ draw, 0 ≤ draw → draw < 1.0 → ∃! i, i < ps.length ∧ sampler.Chooses draw i := by
  have distributes := distributes_of_ofProbabilities nonneg made
  refine ⟨distributes, fun i inside => ?_,
    fun states enough draw => ⟨fun bound => ?_, distributes.sample_eq_error states⟩,
    fun _ _ _ _ chooses chooses' le => chooses.mono chooses' le,
      fun _ _ listed => chooses_zero_iff listed,
    fun _ _ _ _ previous listed => distributes.chooses_succ_iff previous listed,
      fun draw _ below => ?_⟩
  · rw [(cumulative_of_ofProbabilities made).2, getElem?_tableFrom _ _ inside]
  · obtain ⟨i, inside, chooses⟩ := distributes.exists_chooses bound
    have listed := List.getElem?_eq_getElem (inside.trans_le enough)
    exact ⟨i, _, chooses, listed, chooses.sample_eq listed⟩
  · obtain ⟨number, number', lt⟩ := lt_iff_value.1 below
    obtain ⟨i, inside, chooses⟩ :=
      distributes.exists_chooses (le_iff_value.2 ⟨number, number', lt.le⟩)
    exact ⟨i, ⟨inside, chooses⟩, fun j chooses' => chooses'.2.unique chooses⟩

/-- Three tenths are not the sum of one and two of them. -/
def tenths : List Float := [0.1, 0.2, 0.3, 0.4]

theorem sample_inverts_cumulative_tenths :
    (∀ p ∈ tenths, 0 ≤ p) ∧
      ofProbabilities tenths = .ok ⟨[0.1, 0.30000000000000004, 0.6000000000000001, 1.0]⟩ ∧
      Distributes ⟨[0.1, 0.30000000000000004, 0.6000000000000001, 1.0]⟩ 4 ∧
      Chooses ⟨[0.1, 0.30000000000000004, 0.6000000000000001, 1.0]⟩ 0.3 1 := by
  have nonneg : ∀ p ∈ tenths, 0 ≤ p := by decide +kernel
  have made : ofProbabilities tenths =
    .ok ⟨[0.1, 0.30000000000000004, 0.6000000000000001, 1.0]⟩ := by decide +kernel
  obtain ⟨distributes, -, -, -, -, between, -⟩ := sample_inverts_cumulative nonneg made
  exact ⟨nonneg, made, distributes,
    (between 0.3 0 0.1 0.30000000000000004 rfl rfl).2 (by decide +kernel)⟩

end Sampler

end CellularAutomaton
