import CellularAutomaton.Proofs.Counts
import CellularAutomaton.Proofs.History
import CellularAutomaton.Proofs.Numeral.Halves
import CellularAutomaton.Proofs.Outcome
import CellularAutomaton.Report.Text

/-!
# Statistics of several results

Sums, medians and reports do not depend on the order of the results: a list of counts is sorted
before its middle is looked up, and the states are listed in ascending order. The mean of the two
middle counts is half of a whole number, which is not rounded unless it is very large. At least half
of the counts are up to the median, and at least half of them from it on.
-/

namespace CellularAutomaton

/-! ## The middle of ascending counts -/

section Ascending

variable {counts : List ℕ} {i k : ℕ} {p : ℕ → Bool}

theorem le_of_getElem? {j l : ℕ} (ascends : counts.Pairwise (· ≤ ·)) (le : i ≤ j)
    (listed : counts[i]? = some k) (listed' : counts[j]? = some l) : k ≤ l := by
  obtain ⟨inside, rfl⟩ := List.getElem?_eq_some_iff.1 listed
  obtain ⟨inside', rfl⟩ := List.getElem?_eq_some_iff.1 listed'
  exact ascends.rel_get_of_le (a := ⟨i, inside⟩) (b := ⟨j, inside'⟩) le

theorem succ_le_countP (ascends : counts.Pairwise (· ≤ ·)) (listed : counts[i]? = some k)
    (holds : ∀ c ≤ k, p c) :
    i + 1 ≤ counts.countP p := by
  have inside := (List.getElem?_eq_some_iff.1 listed).1
  have first : (counts.take (i + 1)).countP p = i + 1 := by
    rw [List.countP_eq_length.2, List.length_take, min_eq_left inside]
    intro c early
    obtain ⟨j, before, rfl⟩ := List.mem_take_iff_getElem.1 early
    have earlier := Nat.le_of_lt_succ (before.trans_le (min_le_left _ _))
    exact holds _ (le_of_getElem? ascends earlier (List.getElem?_eq_getElem _) listed)
  rw [← first]
  exact (List.take_sublist _ _).countP_le

theorem length_sub_le_countP (ascends : counts.Pairwise (· ≤ ·)) (listed : counts[i]? = some k)
    (holds : ∀ c, k ≤ c → p c) : counts.length - i ≤ counts.countP p := by
  have last : (counts.drop i).countP p = counts.length - i := by
    rw [List.countP_eq_length.2, List.length_drop]
    intro c late
    obtain ⟨j, before, rfl⟩ := List.mem_drop_iff_getElem.1 late
    exact holds _ (le_of_getElem? ascends (Nat.le_add_right i j) listed
      (List.getElem?_eq_getElem _))
  rw [← last]
  exact (List.drop_sublist _ _).countP_le

end Ascending

namespace Report

open Numeral

/-! ## Statistics of a list of counts -/

theorem total_eq (counts : List ℕ) :
    total counts = if counts.sum < 2 ^ 64 then .ok counts.sum else .error .overflow := by
  rw [List.sum_eq_foldr]
  rfl

namespace StateStats

variable {counts counts' : List ℕ}

theorem mergeSort_eq (perm : counts'.Perm counts) (ascends : counts'.Pairwise (· ≤ ·)) :
    counts.mergeSort = counts' := by
  refine List.Perm.eq_of_pairwise (fun _ _ _ _ => Nat.le_antisymm)
    (List.pairwise_mergeSort' _ counts) ascends ?_
  exact (List.mergeSort_perm _ _).trans perm.symm

theorem ofCounts_perm (perm : counts.Perm counts') : ofCounts counts = ofCounts counts' := by
  have sorted : counts.mergeSort = counts'.mergeSort :=
    mergeSort_eq ((List.mergeSort_perm _ _).trans perm.symm) (List.pairwise_mergeSort' _ _)
  rw [ofCounts, ofCounts, sorted, total_eq, total_eq, perm.sum_eq]

theorem exists_ofCounts_eq_ok_iff : (∃ q, ofCounts counts = .ok q) ↔ counts.sum < 2 ^ 64 := by
  rw [ofCounts, total_eq]
  split_ifs with small
  · exact ⟨fun _ => small, fun _ => ⟨_, rfl⟩⟩
  · exact ⟨fun ⟨_, done⟩ => (by cases done), fun small' => absurd small' small⟩

theorem ofCounts_of_overflow (large : 2 ^ 64 ≤ counts.sum) :
    ofCounts counts = .error .overflow := by
  rw [ofCounts, total_eq, if_neg (by omega)]
  rfl

/-- There are two middle counts, which may be one. -/
theorem exists_ofCounts_eq (nonempty : counts ≠ []) (small : counts.sum < 2 ^ 64) :
    ∃ low high, counts.mergeSort[(counts.length - 1) / 2]? = some low ∧
      counts.mergeSort[counts.length / 2]? = some high ∧
      ofCounts counts =
        .ok (some ⟨counts.sum, ratio counts.sum counts.length, nearest (low + high) 2⟩) := by
  have some := List.length_pos_iff.2 nonempty
  have length : counts.mergeSort.length = counts.length := List.length_mergeSort counts
  have low : (counts.length - 1) / 2 < counts.mergeSort.length := by omega
  have high : counts.length / 2 < counts.mergeSort.length := by omega
  refine ⟨_, _, List.getElem?_eq_getElem low, List.getElem?_eq_getElem high, ?_⟩
  rw [ofCounts, total_eq, if_pos small]
  simp only [Except.map, length, List.getElem?_eq_getElem low, List.getElem?_eq_getElem high]

end StateStats

/-! ## Reports in another order -/

variable {results results' : List RunResult}

theorem mem_states {s : State} :
    s ∈ states results ↔ ∃ r ∈ results, s ∈ r.finalCounts.map Prod.fst := by
  rw [states, State.mem_ascending, List.mem_flatMap]

theorem states_perm (perm : results.Perm results') : states results = states results' := by
  have members (s : State) : s ∈ states results ↔ s ∈ states results' := by
    rw [states, states, State.mem_ascending, State.mem_ascending, (perm.flatMap_right _).mem_iff]
  refine List.Perm.eq_of_pairwise
    (fun s t _ _ lt gt => absurd (Int32.lt_trans lt gt) Int32.lt_irrefl)
    (State.pairwise_ascending _) (State.pairwise_ascending _) ?_
  exact (List.perm_ext_iff_of_nodup (State.nodup_ascending _) (State.nodup_ascending _)).2 members

theorem stats_perm (perm : results.Perm results') (s : State) :
    stats results s = stats results' s :=
  StateStats.ofCounts_perm (perm.map _)

theorem statsLines_perm (perm : results.Perm results') (ss : List State) :
    statsLines results ss = statsLines results' ss := by
  induction ss with
  | nil => rfl
  | cons s ss ih => rw [statsLines, statsLines, stats_perm perm, ih]

theorem summary_perm (perm : results.Perm results') : summary results = summary results' := by
  have ended : endedNaturally results = endedNaturally results' := perm.countP_eq _
  have percentage : percentage results = percentage results' := by
    rw [Report.percentage, Report.percentage, ended, perm.length_eq, perm.isEmpty_eq]
  have text : withTable results = withTable results' := by
    funext lines
    rw [withTable, withTable, ended, percentage, perm.length_eq]
  rw [summary, summary, states_perm perm, statsLines_perm perm, text]

/-! ## Sums that are too large -/

theorem exists_statsLines_eq_ok_iff {ss : List State} :
    (∃ lines, statsLines results ss = .ok lines) ↔
      ∀ s ∈ ss, (results.map fun r => r.occurrences s).sum < 2 ^ 64 := by
  induction ss with
  | nil => simp [statsLines]
  | cons s ss ih =>
    rw [List.forall_mem_cons, ← ih, ← StateStats.exists_ofCounts_eq_ok_iff]
    simp only [statsLines, bind_eq_ok]
    constructor
    · rintro ⟨_, q, here, rest, later, -⟩
      exact ⟨⟨q, here⟩, rest, later⟩
    · rintro ⟨⟨q, here⟩, rest, later⟩
      exact ⟨_, q, here, rest, later, rfl⟩

theorem sum_occurrences_of_not_mem {s : State} (absent : s ∉ states results) :
    (results.map fun r => r.occurrences s).sum = 0 := by
  rw [List.sum_eq_zero_iff, List.forall_mem_map]
  intro r there
  have unlisted : s ∉ r.finalCounts.map Prod.fst := fun listed =>
    absent (mem_states.2 ⟨r, there, listed⟩)
  rw [RunResult.occurrences, State.lookup_eq_none unlisted, Option.getD_none]

/-- A summary can be written if all sums are small enough. -/
theorem exists_summary_eq_ok_iff : (∃ text, summary results = .ok text) ↔
    ∀ s, (results.map fun r => r.occurrences s).sum < 2 ^ 64 := by
  have written : (∃ text, summary results = .ok text) ↔
      ∃ lines, statsLines results (states results) = .ok lines := by
    simp only [summary, map_eq_ok]
    exact ⟨fun ⟨_, lines, listed, _⟩ => ⟨lines, listed⟩,
      fun ⟨lines, listed⟩ => ⟨_, lines, listed, rfl⟩⟩
  rw [written, exists_statsLines_eq_ok_iff]
  refine ⟨fun small s => ?_, fun small s _ => small s⟩
  by_cases listed : s ∈ states results
  · exact small s listed
  · rw [sum_occurrences_of_not_mem listed]
    exact Nat.two_pow_pos 64

/-! ## The median -/

/-- The report does not depend on the order of the results. There is one unless some sum is too
large for the machine. For each state the sum of its counts is exact, and so is the median unless
the middle counts are very large: it is their mean, and at least half of the results count as many
or less, and at least half of them as many or more. -/
theorem summary_perm_and_median (results : List RunResult) :
    (∀ results', results.Perm results' → summary results = summary results') ∧
    ((∃ text, summary results = .ok text) ↔
      ∀ s, (results.map fun r => r.occurrences s).sum < 2 ^ 64) ∧
    ∀ s, results ≠ [] →
      (2 ^ 64 ≤ (results.map fun r => r.occurrences s).sum → stats results s = .error .overflow) ∧
      ((results.map fun r => r.occurrences s).sum < 2 ^ 64 →
        ∃ q, stats results s = .ok (some q) ∧ q.sum = (results.map fun r => r.occurrences s).sum ∧
        ∀ sorted : List ℕ, sorted.Perm (results.map fun r => r.occurrences s) →
          sorted.Pairwise (· ≤ ·) →
          ∃ low high, sorted[(results.length - 1) / 2]? = some low ∧
            sorted[results.length / 2]? = some high ∧
            (low + high < 2 ^ 53 →
              ∃ v : ℚ, Binary64.value q.median = Binary64.Value.ofRat v ∧ 2 * v = low + high ∧
              results.length ≤ 2 * results.countP (fun r => (r.occurrences s : ℚ) ≤ v) ∧
              results.length ≤ 2 * results.countP (fun r => v ≤ (r.occurrences s : ℚ)))) := by
  refine ⟨fun _ => summary_perm, exists_summary_eq_ok_iff, fun s nonempty => ?_⟩
  refine ⟨StateStats.ofCounts_of_overflow, ?_⟩
  generalize counts : results.map (fun r => r.occurrences s) = cs
  have length : cs.length = results.length := by rw [← counts, List.length_map]
  have some : cs ≠ [] := by
    rw [← List.length_pos_iff, length]
    exact List.length_pos_iff.2 nonempty
  intro sizes
  obtain ⟨low, high, first, second, result⟩ := StateStats.exists_ofCounts_eq some sizes
  rw [length] at first second
  refine ⟨_, by rw [stats, counts]; exact result, rfl, fun sorted perm ascends => ?_⟩
  rw [StateStats.mergeSort_eq perm ascends] at first second
  have order := le_of_getElem? ascends (by omega) first second
  have size : sorted.length = results.length := perm.length_eq.trans length
  have number (p : ℕ → Bool) : results.countP (fun r => p (r.occurrences s)) = sorted.countP p := by
    rw [perm.countP_eq, ← counts, List.countP_map]
    rfl
  have middle (c : ℕ) : ((c : ℚ) ≤ ((low + high : ℕ) : ℚ) / 2 ↔ 2 * c ≤ low + high) ∧
      (((low + high : ℕ) : ℚ) / 2 ≤ (c : ℚ) ↔ low + high ≤ 2 * c) := by
    rw [le_div_iff₀ two_pos, div_le_iff₀ two_pos, mul_comm]
    exact ⟨mod_cast Iff.rfl, mod_cast Iff.rfl⟩
  refine ⟨low, high, first, second,
    fun small => ⟨((low + high : ℕ) : ℚ) / 2, value_nearest_two small, ?_, ?_, ?_⟩⟩
  · push_cast
    ring
  · rw [number fun c => (c : ℚ) ≤ ((low + high : ℕ) : ℚ) / 2]
    have := succ_le_countP ascends first fun c le => decide_eq_true ((middle c).1.2 (by omega))
    omega
  · rw [number fun c => ((low + high : ℕ) : ℚ) / 2 ≤ (c : ℚ)]
    have := length_sub_le_countP ascends second fun c le =>
      decide_eq_true ((middle c).2.2 (by omega))
    omega

def poll (zeros ones : ℕ) : RunResult where
  iterations := 3
  finalCounts := [(0, zeros), (1, ones)]
  width := 2
  height := 2
  possibleStates := [0, 1]
  history := ⟨[0, 1], #[]⟩
  endedNaturally := true

def polls : List RunResult := [poll 4 0, poll 1 3, poll 2 2, poll 0 4]

/-- With two runs of half the largest sum there is no sum any more. -/
theorem summary_perm_and_median_polls :
    summary polls = summary [poll 0 4, poll 2 2, poll 1 3, poll 4 0] ∧ polls ≠ [] ∧
      [0, 1, 2, 4].Perm (polls.map fun r => r.occurrences 0) ∧
      (∃ q, stats polls 0 = .ok (some q) ∧ q.sum = 7 ∧
        Binary64.value q.median = Binary64.Value.ofRat (3 / 2)) ∧
      stats [poll (2 ^ 63) 0, poll (2 ^ 63) 0] 0 = .error .overflow := by
  have nonempty : polls ≠ [] := List.cons_ne_nil _ _
  have sorted : [0, 1, 2, 4].Perm (polls.map fun r => r.occurrences 0) := by decide +kernel
  obtain ⟨same, -, every⟩ := summary_perm_and_median polls
  obtain ⟨q, result, sum, middle⟩ := (every 0 nonempty).2 (by decide)
  obtain ⟨low, high, first, second, precise⟩ := middle _ sorted (by decide)
  obtain rfl : 1 = low := Option.some.inj first
  obtain rfl : 2 = high := Option.some.inj second
  obtain ⟨v, value, twice, -⟩ := precise (by norm_num)
  obtain ⟨-, -, large⟩ := summary_perm_and_median [poll (2 ^ 63) 0, poll (2 ^ 63) 0]
  refine ⟨same _ (List.reverse_perm polls).symm, nonempty, sorted, ⟨q, result, sum, ?_⟩,
    (large 0 (List.cons_ne_nil _ _)).1 (by decide)⟩
  rw [value]
  congr 1
  norm_num at twice
  linarith

end Report

end CellularAutomaton
