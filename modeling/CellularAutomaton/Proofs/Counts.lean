import CellularAutomaton.Proofs.Grid
import CellularAutomaton.World.Run

/-!
# Counting cells

Tallying a list of states gives, in ascending order, each state that was there before or is in the
list, with the number of its occurrences. So the counts of a world are the histogram of its cells,
over the possible states and all others that occur.
-/

namespace CellularAutomaton

variable {w h : ℕ}

def Grid.number (g : Grid State w h) (s : State) : ℕ :=
  (Finset.univ.filter fun p : Fin w × Fin h => g.get p.1 p.2 = s).card

theorem Grid.number_eq_count (g : Grid State w h) (s : State) : g.number s = g.toList.count s := by
  rw [List.count, toList_eq_map_places, List.countP_map, countP_places, number]
  simp

theorem Grid.mem_toList {g : Grid State w h} {s : State} : s ∈ g.toList ↔ ∃ x y, g.get x y = s := by
  simp [toList_eq_map_places]

namespace State

/-- The keys of a list of counts, which are distinct and ascend. -/
abbrev Ascends (counts : List (State × ℕ)) : Prop := (counts.map Prod.fst).Pairwise (· < ·)

theorem lt_of_mem_cons {s t u : State} {ts : List State} (lt : s < t)
    (ascends : (t :: ts).Pairwise (· < ·)) (inside : u ∈ t :: ts) : s < u := by
  rcases List.mem_cons.1 inside with rfl | later
  · exact lt
  · exact Int32.lt_trans lt ((List.pairwise_cons.1 ascends).1 u later)

theorem pairwise_insert {s : State} {ss : List State} (ascends : ss.Pairwise (· < ·)) :
    (State.insert s ss).Pairwise (· < ·) := by
  fun_induction State.insert s ss with
  | case1 => exact List.pairwise_singleton _ _
  | case2 t ts lt => exact List.pairwise_cons.2 ⟨fun u => lt_of_mem_cons lt ascends, ascends⟩
  | case3 => exact ascends
  | case4 t ts notLt differ ih =>
    obtain ⟨above, below⟩ := List.pairwise_cons.1 ascends
    refine List.pairwise_cons.2 ⟨?_, ih below⟩
    intro u inside
    rcases State.mem_insert.1 inside with rfl | later
    · exact Int32.lt_of_le_of_ne (Int32.not_lt.1 notLt) (Ne.symm differ)
    · exact above u later

theorem keys_tally (s : State) (n : ℕ) (counts : List (State × ℕ)) :
    (tally s n counts).map Prod.fst = State.insert s (counts.map Prod.fst) := by
  fun_induction tally s n counts with
  | case1 => rfl
  | case2 u k rest lt => simp [State.insert, lt]
  | case3 k rest irrefl => simp [State.insert]
  | case4 u k rest notLt differ ih => simp [State.insert, notLt, differ, ih]

theorem mem_keys_tally {s t : State} {n : ℕ} {counts : List (State × ℕ)} :
    t ∈ (tally s n counts).map Prod.fst ↔ t = s ∨ t ∈ counts.map Prod.fst := by
  rw [keys_tally, mem_insert]

theorem Ascends.tally {counts : List (State × ℕ)} (ascends : Ascends counts) (s : State) (n : ℕ) :
    Ascends (tally s n counts) := by
  unfold Ascends
  rw [keys_tally]
  exact pairwise_insert ascends

theorem lookup_cons (t : State) (p : State × ℕ) (rest : List (State × ℕ)) :
    (p :: rest).lookup t = if t = p.1 then some p.2 else rest.lookup t := by
  rw [List.lookup_cons]
  by_cases same : t = p.1
  · simp [same]
  · rw [beq_false_of_ne same, if_neg same]

theorem lookup_eq_none {s : State} {counts : List (State × ℕ)} (absent : s ∉ counts.map Prod.fst) :
    counts.lookup s = none := by
  refine List.lookup_eq_none_iff.2 fun p inside => bne_iff_ne.2 ?_
  rintro rfl
  exact absent (List.mem_map_of_mem inside)

theorem lookup_tally {counts : List (State × ℕ)} (ascends : Ascends counts) (s t : State) (n : ℕ) :
    (tally s n counts).lookup t =
      if t = s then some ((counts.lookup s).getD 0 + n) else counts.lookup t := by
  fun_induction tally s n counts with
  | case1 => simp [lookup_cons]
  | case2 u k rest lt =>
    have absent : List.lookup s ((u, k) :: rest) = none :=
      lookup_eq_none fun there => Int32.lt_irrefl (lt_of_mem_cons lt ascends there)
    rw [absent, lookup_cons]
    simp
  | case3 k rest irrefl => by_cases same : t = s <;> simp [lookup_cons, same]
  | case4 u k rest notLt differ ih =>
    obtain ⟨-, below⟩ := List.pairwise_cons.1 ascends
    rw [lookup_cons, lookup_cons, lookup_cons, ih below, if_neg differ]
    by_cases same : t = s
    · subst same
      simp [differ]
    · simp [same]

/-! ## Tallying many states -/

variable {counts : List (State × ℕ)} {n : ℕ} {ss : List State}

theorem Ascends.tallyAll (ascends : Ascends counts) :
    Ascends (ss.foldl (fun counted s => State.tally s n counted) counts) := by
  induction ss generalizing counts with
  | nil => exact ascends
  | cons s ss ih => exact ih (ascends.tally s n)

theorem mem_keys_tallyAll {t : State} :
    t ∈ (ss.foldl (fun counted s => tally s n counted) counts).map Prod.fst ↔
      t ∈ ss ∨ t ∈ counts.map Prod.fst := by
  induction ss generalizing counts with
  | nil => simp
  | cons s ss ih =>
    rw [List.foldl_cons, ih, mem_keys_tally, List.mem_cons]
    tauto

theorem lookup_tallyAll (ascends : Ascends counts) (t : State) :
    ((ss.foldl (fun counted s => tally s n counted) counts).lookup t).getD 0 =
      (counts.lookup t).getD 0 + n * ss.count t := by
  induction ss generalizing counts with
  | nil => simp
  | cons s ss ih =>
    rw [List.foldl_cons, ih (ascends.tally s n), lookup_tally ascends, List.count_cons]
    by_cases same : t = s
    · subst same
      simp [Nat.mul_add, Nat.add_assoc, Nat.add_comm n]
    · simp [same, Ne.symm same]

theorem Ascends.lookup_of_mem (ascends : Ascends counts) {s : State} {k : ℕ}
    (inside : (s, k) ∈ counts) :
    counts.lookup s = some k := by
  induction counts with
  | nil => cases inside
  | cons p rest ih =>
    obtain ⟨above, below⟩ := List.pairwise_cons.1 ascends
    rw [lookup_cons]
    rcases List.mem_cons.1 inside with rfl | later
    · simp
    · have lt := above s (List.mem_map_of_mem later)
      rw [if_neg (Int32.ne_of_lt lt).symm, ih below later]

end State

/-- A list that tells for each possible state, and each other that occurs, in how many cells it
is. -/
structure IsHistogram (states : List State) (g : Grid State w h)
    (counts : List (State × ℕ)) : Prop where
  ascends : State.Ascends counts
  mem_keys : ∀ s, s ∈ counts.map Prod.fst ↔ s ∈ states ∨ ∃ x y, g.get x y = s
  number : ∀ s n, (s, n) ∈ counts → n = g.number s

theorem Grid.number_pos {g : Grid State w h} {s : State} :
    0 < g.number s ↔ ∃ x y, g.get x y = s := by
  rw [number_eq_count, List.count_pos_iff, mem_toList]

namespace IsHistogram

variable {w' h' : ℕ} {states : List State} {g : Grid State w h} {g' : Grid State w' h'}
  {counts counts' : List (State × ℕ)}

theorem mem_iff (histogram : IsHistogram states g counts) {p : State × ℕ} :
    p ∈ counts ↔ (p.1 ∈ states ∨ 0 < g.number p.1) ∧ p.2 = g.number p.1 := by
  rw [Grid.number_pos, ← histogram.mem_keys]
  constructor
  · intro inside
    exact ⟨List.mem_map_of_mem inside, histogram.number _ _ inside⟩
  · rintro ⟨key, number⟩
    obtain ⟨q, inside, same⟩ := List.mem_map.1 key
    have value := histogram.number _ _ inside
    rw [same, ← number] at value
    rwa [← Prod.ext same value]

/-- What is looked up is the number of cells, also for a state that is not listed. -/
theorem lookup_getD (histogram : IsHistogram states g counts) (s : State) :
    (counts.lookup s).getD 0 = g.number s := by
  by_cases key : s ∈ counts.map Prod.fst
  · obtain ⟨p, inside, rfl⟩ := List.mem_map.1 key
    rw [histogram.ascends.lookup_of_mem inside]
    exact histogram.number _ _ inside
  · have nowhere : ¬0 < g.number s :=
      fun some => key ((histogram.mem_keys s).2 (.inr (Grid.number_pos.1 some)))
    rw [State.lookup_eq_none key, Option.getD_none]
    omega

/-- A histogram is determined by the number of cells in each state. -/
theorem unique (left : IsHistogram states g counts) (right : IsHistogram states g' counts')
    (same : ∀ s, g.number s = g'.number s) : counts = counts' := by
  have ascends := List.pairwise_map.1 left.ascends
  have ascends' := List.pairwise_map.1 right.ascends
  have distinct : ∀ {p q : State × ℕ}, p.1 < q.1 → p ≠ q := by
    rintro p q lt rfl
    exact Int32.lt_irrefl lt
  have perm : counts.Perm counts' := by
    rw [List.perm_ext_iff_of_nodup (ascends.imp distinct) (ascends'.imp distinct)]
    intro p
    rw [left.mem_iff, right.mem_iff, same]
  refine List.Perm.eq_of_pairwise ?_ ascends ascends' perm
  intro p q _ _ lt gt
  exact absurd (Int32.lt_trans lt gt) Int32.lt_irrefl

end IsHistogram

namespace World

variable {world : World w h}

theorem isHistogram_counts (begun : world.status ≠ .uninitialized) :
    IsHistogram world.rules.states world.cells world.counts := by
  have possible : State.Ascends
      (world.rules.states.foldl (fun counted s => State.tally s 0 counted) []) :=
    State.Ascends.tallyAll List.Pairwise.nil
  rw [counts, if_neg begun]
  refine ⟨possible.tallyAll, ?_, ?_⟩
  · intro s
    rw [State.mem_keys_tallyAll, State.mem_keys_tallyAll, Grid.mem_toList]
    simp [or_comm]
  · intro s n inside
    have counted := @State.lookup_tallyAll _ 1 world.cells.toList possible s
    rw [possible.tallyAll.lookup_of_mem inside, State.lookup_tallyAll List.Pairwise.nil,
      ← Grid.number_eq_count] at counted
    simpa using counted

theorem occurrences_snapshot (begun : world.status ≠ .uninitialized) (s : State) :
    world.snapshot.occurrences s = world.cells.number s := (isHistogram_counts begun).lookup_getD s

end World

end CellularAutomaton
