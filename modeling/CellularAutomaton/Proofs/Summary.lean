import CellularAutomaton.Proofs.Lifecycle
import CellularAutomaton.Proofs.Numeral.Float
import CellularAutomaton.Proofs.Statistics
import CellularAutomaton.Proofs.Text.Fields
import CellularAutomaton.Proofs.Walk

/-!
# The sums of a summary

The counts of a world share out all of its cells among the states. The summary of several results
lists every state that is counted in one of them, and adds up what is counted. So what its table
says, read back from the text, adds up to the number of all cells of all results.
-/

namespace CellularAutomaton

variable {w h : ℕ}

/-! ## Counts -/

namespace IsHistogram

variable {states ss : List State} {g : Grid State w h} {counts : List (State × ℕ)}

/-- Every cell is counted for one of the states, if all keys are among them. -/
theorem sum_lookup (histogram : IsHistogram states g counts) (distinct : ss.Nodup)
    (all : ∀ s ∈ counts.map Prod.fst, s ∈ ss) :
    (ss.map fun s => (counts.lookup s).getD 0).sum = w * h := by
  simp only [histogram.lookup_getD]
  rw [Grid.sum_number distinct, Grid.numberIn_eq]
  exact fun x y => all _ ((histogram.mem_keys _).2 (.inr ⟨x, y, rfl⟩))

theorem sum_counts (histogram : IsHistogram states g counts) :
    (counts.map Prod.snd).sum = w * h := by
  have keys : counts.map Prod.snd = (counts.map Prod.fst).map fun s =>
      (counts.lookup s).getD 0 := by
    rw [List.map_map]
    refine List.map_congr_left fun p inside => ?_
    rw [Function.comp_apply, histogram.ascends.lookup_of_mem inside, Option.getD_some]
  rw [keys, histogram.sum_lookup (histogram.ascends.imp Int32.ne_of_lt) fun _ => id]

end IsHistogram

/-! ## Results -/

/-- Results that are taken from a world which has been randomized, before or after a run. -/
inductive RunResult.Obtained : RunResult → Prop
  | snapshot {w h : ℕ} {world : World w h} (begun : world.status ≠ .uninitialized) :
      Obtained world.snapshot
  | intoResult {w h : ℕ} {world : World w h} (begun : world.status ≠ .uninitialized) :
      Obtained world.intoResult
  | run {w h : ℕ} {world : World w h} {max : Option ℕ} {r : RunResult}
      (begun : world.status ≠ .uninitialized) (answered : (world.run max).1 = .ok r) : Obtained r

namespace RunResult.Obtained

variable {r : RunResult}

theorem exists_histogram (obtained : r.Obtained) :
    ∃ states, ∃ g : Grid State r.width r.height, IsHistogram states g r.finalCounts := by
  cases obtained with
  | snapshot begun => exact ⟨_, _, World.isHistogram_counts begun⟩
  | @intoResult w h world begun =>
    have begun : { world with history := ⟨[], #[]⟩ }.status ≠ .uninitialized := begun
    exact ⟨_, _, World.isHistogram_counts begun⟩
  | @run w h world max r begun answered =>
    obtain ⟨ns, last, walks, same | ⟨e, -, failed⟩⟩ := world.run_walks max
    · rw [same, World.conclude_eq_ok_iff] at answered
      obtain ⟨-, rfl⟩ := answered
      exact ⟨_, _, World.isHistogram_counts (walks.begun begun)⟩
    · rw [failed] at answered
      cases answered

theorem sum_occurrences {ss : List State} (obtained : r.Obtained) (distinct : ss.Nodup)
    (all : ∀ s ∈ r.finalCounts.map Prod.fst, s ∈ ss) :
    (ss.map r.occurrences).sum = r.width * r.height := by
  obtain ⟨states, g, histogram⟩ := obtained.exists_histogram
  exact histogram.sum_lookup distinct all

theorem occurrences_le (obtained : r.Obtained) (s : State) :
    r.occurrences s ≤ r.width * r.height := by
  obtain ⟨states, g, histogram⟩ := obtained.exists_histogram
  have number : r.occurrences s = g.number s := histogram.lookup_getD s
  rw [number]
  exact (Finset.card_le_univ _).trans (by simp)

theorem occurrences_eq (obtained : r.Obtained) (s : State) :
    (∀ n, (s, n) ∈ r.finalCounts → r.occurrences s = n) ∧
      (s ∉ r.finalCounts.map Prod.fst → r.occurrences s = 0) := by
  obtain ⟨states, g, histogram⟩ := obtained.exists_histogram
  refine ⟨fun n listed => ?_, fun absent => ?_⟩
  · rw [occurrences, histogram.ascends.lookup_of_mem listed, Option.getD_some]
  · rw [occurrences, State.lookup_eq_none absent, Option.getD_none]

end RunResult.Obtained

/-! ## Fields -/

namespace Numeral

open Text

theorem isBlank_of_mem_natural {n : ℕ} : ∀ c ∈ natural n, isBlank c = false :=
  fun _ inside => isBlank_of_isDigit (isDigit_of_mem_natural inside)

theorem isBlank_of_mem_integer {n : ℤ} : ∀ c ∈ integer n, isBlank c = false := by
  intro c inside
  obtain rfl | digit := mem_integer inside
  · decide
  · exact isBlank_of_isDigit digit

theorem isBlank_of_mem_sign {x : Float} :
    ∀ c ∈ if isNegative x then ['-'] else [], isBlank c = false := by
  split_ifs
  · exact forall_mem_of_all (by decide)
  · exact List.forall_mem_nil _

theorem isBlank_of_mem_twoPlaces {x : Float} : ∀ c ∈ twoPlaces x, isBlank c = false := by
  have digit {n : ℕ} (below : n < 10) : isBlank (Nat.digitChar n) = false := by
    refine isBlank_of_isDigit ?_
    rw [Nat.isDigit_digitChar]
    exact decide_eq_true below
  refine List.forall_mem_append.2
    ⟨isBlank_of_mem_sign, List.forall_mem_append.2 ⟨isBlank_of_mem_natural, ?_⟩⟩
  rw [List.forall_mem_cons, List.forall_mem_cons, List.forall_mem_singleton]
  exact ⟨by decide, digit (by omega), digit (by omega)⟩

theorem isBlank_of_mem_float {x : Float} : ∀ c ∈ float x, isBlank c = false := by
  unfold float
  dsimp only
  cases x.isNaN with
  | true =>
    show ∀ c ∈ ['N', 'a', 'N'], isBlank c = false
    exact forall_mem_of_all (by decide)
  | false =>
    cases x.isInf with
    | true => exact List.forall_mem_append.2 ⟨isBlank_of_mem_sign, forall_mem_of_all (by decide)⟩
    | false =>
      refine List.forall_mem_append.2 ⟨isBlank_of_mem_sign, fun c inside => ?_⟩
      obtain rfl | digit := mem_magnitudeText inside
      · decide
      · exact isBlank_of_isDigit digit

end Numeral

namespace Report

open Numeral

variable {results : List RunResult}

def columns : List (List Char) := ["State".toList, "Sum".toList, "Avg".toList, "Med".toList]

def fields (row : State × StateStats) : List (List Char) :=
  [row.1.print, natural row.2.sum, twoPlaces row.2.average, float row.2.median]

def rowText (row : State × StateStats) : List Char := ['\t'].intercalate (fields row)

theorem isBlank_of_mem_fields (row : State × StateStats) :
    ∀ field ∈ fields row, ∀ c ∈ field, Text.isBlank c = false := by
  simp only [fields, List.forall_mem_cons]
  exact ⟨isBlank_of_mem_integer, isBlank_of_mem_natural, isBlank_of_mem_twoPlaces,
    isBlank_of_mem_float, List.forall_mem_nil _⟩

theorem splitOn_rowText (row : State × StateStats) : (rowText row).splitOn '\t' = fields row := by
  refine List.splitOn_intercalate '\t' (fun field inside broken => ?_) (List.cons_ne_nil _ _)
  have solid := isBlank_of_mem_fields row field inside '\t' broken
  cases solid

/-! ## Lines -/

theorem newline_not_mem {cs : List Char} (solid : ∀ c ∈ cs, Text.isBlank c = false) :
    '\n' ∉ cs := by
  intro broken
  have solid := solid '\n' broken
  cases solid

theorem newline_not_mem_rowText (row : State × StateStats) : '\n' ∉ rowText row := by
  intro broken
  obtain tab | ⟨field, inside, broken⟩ := Text.mem_intercalate broken
  · cases tab
  · exact newline_not_mem (isBlank_of_mem_fields row field inside) broken

theorem newline_not_mem_line {parts : List (List Char)} (whole : ∀ part ∈ parts, '\n' ∉ part) :
    '\n' ∉ line parts := by
  intro broken
  obtain ⟨part, inside, broken⟩ := List.mem_flatten.1 broken
  exact whole part inside broken

theorem splitOn_withTable (results : List RunResult) {lines : List (List Char)}
    (whole : ∀ line ∈ lines, '\n' ∉ line) :
    (withTable results lines).toList.splitOn '\n' =
      [line ["Simulations run: ".toList, natural results.length],
        "Cells in each state at the end:".toList] ++
      (['\t'].intercalate columns :: lines) ++
      [line ["Ended naturally: ".toList, natural (endedNaturally results)],
        line ["Which is ".toList, twoPlaces (percentage results), ['%']]] := by
  have numbered {label : List Char} (n : ℕ) (labelled : '\n' ∉ label) :
      '\n' ∉ line [label, natural n] := by
    refine newline_not_mem_line ?_
    simp only [List.forall_mem_cons]
    exact ⟨labelled, newline_not_mem isBlank_of_mem_natural, List.forall_mem_nil _⟩
  have percent (x : Float) : '\n' ∉ line ["Which is ".toList, twoPlaces x, ['%']] := by
    refine newline_not_mem_line ?_
    simp only [List.forall_mem_cons]
    exact ⟨by decide, newline_not_mem isBlank_of_mem_twoPlaces, by decide, List.forall_mem_nil _⟩
  rw [withTable, text, String.toList_ofList]
  refine List.splitOn_intercalate '\n' ?_ (by simp)
  simp only [List.forall_mem_append, List.forall_mem_cons]
  exact ⟨⟨⟨numbered _ (by decide), by decide, by decide, List.forall_mem_nil _⟩, whole⟩,
    numbered _ (by decide), percent _, List.forall_mem_nil _⟩

/-- The table of a summary, field by field: what stands between the first two lines and the last
two. -/
def table (text : String) : List (List (List Char)) :=
  (((text.toList.splitOn '\n').drop 2).dropLast.dropLast).map (List.splitOn '\t')

/-- The rows of a table are read back from the text, below the names of its columns. -/
theorem table_withTable (results : List RunResult) (rows : List (State × StateStats)) :
    table (withTable results (rows.map rowText)) = columns :: rows.map fields := by
  have whole : ∀ line ∈ rows.map rowText, '\n' ∉ line :=
    List.forall_mem_map.2 fun row _ => newline_not_mem_rowText row
  have names : (['\t'].intercalate columns).splitOn '\t' = columns := by decide
  have between {α : Type} (a b c d : α) (as : List α) :
      (([a, b] ++ as ++ [c, d]).drop 2).dropLast.dropLast = as := by
    have split : ([a, b] ++ as ++ [c, d]).drop 2 = as ++ [c] ++ [d] := by simp
    rw [split, List.dropLast_concat, List.dropLast_concat]
  rw [table, splitOn_withTable results whole, between, List.map_cons, names, List.map_map]
  exact congrArg _ (List.map_congr_left fun row _ => splitOn_rowText row)

/-! ## Rows -/

theorem exists_stats_eq (nonempty : results ≠ []) {s : State}
    (small : (results.map fun r => r.occurrences s).sum < 2 ^ 64) :
    ∃ q, stats results s = .ok (some q) ∧
      q.sum = (results.map fun r => r.occurrences s).sum := by
  have some : (results.map fun r => r.occurrences s) ≠ [] := by simpa using nonempty
  obtain ⟨_, _, -, -, result⟩ := StateStats.exists_ofCounts_eq some small
  exact ⟨_, result, rfl⟩

theorem exists_rows_of_ne_nil (nonempty : results ≠ []) (ss : List State)
    (small : ∀ s, (results.map fun r => r.occurrences s).sum < 2 ^ 64) :
    ∃ rows : List (State × StateStats),
      statsLines results ss = .ok (rows.map rowText) ∧
        rows.map Prod.fst = ss ∧
        ∀ row ∈ rows, row.2.sum = (results.map fun r => r.occurrences row.1).sum := by
  induction ss with
  | nil => exact ⟨[], rfl, rfl, List.forall_mem_nil _⟩
  | cons s ss ih =>
    obtain ⟨rows, lines, keys, sums⟩ := ih
    obtain ⟨q, stats, sum⟩ := exists_stats_eq nonempty (small s)
    refine ⟨(s, q) :: rows, ?_, ?_, List.forall_mem_cons.2 ⟨sum, sums⟩⟩
    · rw [statsLines, stats, lines]
      rfl
    · rw [List.map_cons, keys]

theorem exists_rows (small : ∀ s, (results.map fun r => r.occurrences s).sum < 2 ^ 64) :
    ∃ rows : List (State × StateStats),
      statsLines results (states results) = .ok (rows.map rowText) ∧
        rows.map Prod.fst = states results ∧
        ∀ row ∈ rows, row.2.sum = (results.map fun r => r.occurrences row.1).sum := by
  obtain rfl | nonempty := eq_or_ne results []
  · exact ⟨[], rfl, rfl, List.forall_mem_nil _⟩
  · exact exists_rows_of_ne_nil nonempty _ small

/-- It does not matter whether counts are summed over the states or over the results first. -/
theorem sum_rows {ss : List State}
    (cells : ∀ r ∈ results, (ss.map r.occurrences).sum = r.width * r.height) :
    (ss.map fun s => (results.map fun r => r.occurrences s).sum).sum =
      (results.map fun r => r.width * r.height).sum := by
  induction results with
  | nil => simp
  | cons r results ih =>
    obtain ⟨here, later⟩ := List.forall_mem_cons.1 cells
    simp only [List.map_cons, List.sum_cons]
    rw [List.sum_map_add, here, ih later]

/-- The counts of a world that has been randomized share out its cells. The table of a summary has
one row for each state that is counted in some result, and its sums add up to the number of the
cells of all results. -/
theorem summary_adds_up :
    (∀ {w h : ℕ} {world : World w h}, world.status ≠ .uninitialized →
      IsHistogram world.rules.states world.cells world.counts ∧
      (world.counts.map Prod.snd).sum = w * h ∧
        ∀ s n, (s, n) ∈ world.counts → s ∉ world.rules.states → 1 ≤ n) ∧
    ∀ results : List RunResult, (∀ r ∈ results, r.Obtained) →
      (∀ r ∈ results, ∀ s, (∀ n, (s, n) ∈ r.finalCounts → r.occurrences s = n) ∧
        (s ∉ r.finalCounts.map Prod.fst → r.occurrences s = 0)) ∧
      ((∀ s, (results.map fun r => r.occurrences s).sum < 2 ^ 64) →
        ∃ text, summary results = .ok text ∧ ∃ rows : List (State × StateStats),
          table text = columns :: rows.map fields ∧
          (rows.map Prod.fst).Pairwise (· < ·) ∧
          (∀ s, s ∈ rows.map Prod.fst ↔ ∃ r ∈ results, s ∈ r.finalCounts.map Prod.fst) ∧
          (∀ row ∈ rows, row.2.sum = (results.map fun r => r.occurrences row.1).sum) ∧
          (rows.map fun row => row.2.sum).sum = (results.map fun r => r.width * r.height).sum) := by
  constructor
  · intro w h world begun
    have histogram := World.isHistogram_counts begun
    refine ⟨histogram, histogram.sum_counts, fun s n listed foreign => ?_⟩
    have there := (histogram.mem_iff.1 listed).1.resolve_left foreign
    rwa [← histogram.number s n listed] at there
  · intro results obtained
    refine ⟨fun r there s => (obtained r there).occurrences_eq s, fun small => ?_⟩
    obtain ⟨rows, lines, keys, sums⟩ := exists_rows small
    refine ⟨_, by rw [summary, lines]; rfl, rows, table_withTable results rows, ?_, ?_, sums, ?_⟩
    · rw [keys]
      exact State.pairwise_ascending _
    · intro s
      rw [keys, mem_states]
    · have states : (rows.map fun row => row.2.sum) =
          (states results).map fun s => (results.map fun r => r.occurrences s).sum := by
        rw [← keys, List.map_map]
        exact List.map_congr_left sums
      rw [states]
      refine sum_rows fun r there => (obtained r there).sum_occurrences (State.nodup_ascending _) ?_
      exact fun s key => mem_states.2 ⟨r, there, key⟩

def overgrown : World 3 1 := (forest.setCell ⟨0, 0⟩ 7).2

theorem summary_adds_up_overgrown :
    forest.status ≠ .uninitialized ∧ overgrown.status ≠ .uninitialized ∧
      overgrown.counts = [(0, 0), (1, 1), (2, 1), (7, 1)] ∧
      (overgrown.counts.map Prod.snd).sum = 3 * 1 ∧
      (∀ s, ([forest.snapshot, overgrown.snapshot].map fun r => r.occurrences s).sum < 2 ^ 64) ∧
      ∃ text, summary [forest.snapshot, overgrown.snapshot] = .ok text ∧
        ∃ rows : List (State × StateStats), table text = columns :: rows.map fields ∧
          7 ∈ rows.map Prod.fst ∧ (rows.map fun row => row.2.sum).sum = 6 := by
  have begun : forest.status ≠ .uninitialized := by decide
  have begun' : overgrown.status ≠ .uninitialized := by decide +kernel
  have counts : overgrown.counts = [(0, 0), (1, 1), (2, 1), (7, 1)] := by decide +kernel
  have foreign : 7 ∈ overgrown.snapshot.finalCounts.map Prod.fst := by decide +kernel
  obtain ⟨partition, sums⟩ := summary_adds_up
  have obtained : ∀ r ∈ [forest.snapshot, overgrown.snapshot], r.Obtained :=
    List.forall_mem_cons.2 ⟨.snapshot begun, List.forall_mem_singleton.2 (.snapshot begun')⟩
  have small : ∀ s, ([forest.snapshot, overgrown.snapshot].map fun r => r.occurrences s).sum <
      2 ^ 64 := by
    intro s
    have cells := List.sum_le_sum fun r there => (obtained r there).occurrences_le s
    exact cells.trans_lt (by decide)
  obtain ⟨-, written⟩ := sums _ obtained
  obtain ⟨text, report, rows, read, -, keys, -, total⟩ := written small
  exact ⟨begun, begun', counts, (partition begun').2.1, small, text, report, rows, read,
    (keys 7).2 ⟨_, by simp, foreign⟩, total⟩

end Report

end CellularAutomaton
