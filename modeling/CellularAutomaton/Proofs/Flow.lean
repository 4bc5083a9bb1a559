import CellularAutomaton.Proofs.History

/-!
# The flow between generations

Recording one generation after another appends the flow between them to the history: for each
tracked state the number of cells that enter it and the number of those that leave it. What flows
into a state in total is the change of the number of its cells.
-/

namespace CellularAutomaton

variable {w h : ℕ}

namespace Grid

variable (before after : Grid State w h) (states : List State)

/-- How many cells enter and leave a state from one generation to another one. -/
def flow (s : State) : Delta where
  entered := (Finset.univ.filter fun p : Fin w × Fin h =>
    before.get p.1 p.2 ≠ s ∧ after.get p.1 p.2 = s).card
  left := -((Finset.univ.filter fun p : Fin w × Fin h =>
    before.get p.1 p.2 = s ∧ after.get p.1 p.2 ≠ s).card : ℤ)

def numberIn : ℕ := (Finset.univ.filter fun p : Fin w × Fin h => before.get p.1 p.2 ∈ states).card

def moves : List Move :=
  (places w h).map fun p => (some (before.get p.1 p.2), after.get p.1 p.2)

/-- The moves of cells that had no state yet. -/
def arrivals : List Move := (places w h).map fun p => (none, after.get p.1 p.2)

variable {before after states}

theorem delta_moves (s : State) : Move.delta (moves before after) s = before.flow after s := by
  simp only [Move.delta, Move.changes, moves, List.countP_map, countP_places, flow]
  congr 3
  · ext p
    simp only [Finset.mem_filter, Finset.mem_univ, true_and, Function.comp_apply, ne_eq,
      Option.some.injEq, Bool.and_eq_true, decide_eq_true_eq]
    constructor
    · rintro ⟨moved, rfl⟩
      exact ⟨moved, rfl⟩
    · rintro ⟨moved, rfl⟩
      exact ⟨moved, rfl⟩
  · congr 1
    ext p
    simp only [Finset.mem_filter, Finset.mem_univ, true_and, Function.comp_apply, ne_eq,
      Option.some.injEq, Bool.and_eq_true, decide_eq_true_eq]
    constructor
    · rintro ⟨moved, rfl⟩
      exact ⟨rfl, Ne.symm moved⟩
    · rintro ⟨rfl, moved⟩
      exact ⟨Ne.symm moved, rfl⟩

theorem delta_arrivals (s : State) : Move.delta (arrivals after) s = ⟨after.number s, 0⟩ := by
  simp [Move.delta, Move.changes, arrivals, List.countP_map, countP_places, number]

/-- The cells in a state afterwards are those that stay and those that enter, and before they were
those that stay and those that leave. -/
theorem flow_balance (s : State) :
    (before.flow after s).entered + (before.flow after s).left =
      after.number s - before.number s := by
  have stay : (Finset.univ.filter fun p : Fin w × Fin h =>
      after.get p.1 p.2 = s ∧ before.get p.1 p.2 = s).card =
      (Finset.univ.filter fun p : Fin w × Fin h =>
        before.get p.1 p.2 = s ∧ after.get p.1 p.2 = s).card := by
    simp only [and_comm]
  have entered : (before.flow after s).entered = ((Finset.univ.filter fun p : Fin w × Fin h =>
      after.get p.1 p.2 = s ∧ ¬before.get p.1 p.2 = s).card : ℤ) := by
    simp only [flow, ne_eq, and_comm]
  have number_after := Finset.card_filter_add_card_filter_not
    (s := Finset.univ.filter fun p : Fin w × Fin h =>
    after.get p.1 p.2 = s) fun p => before.get p.1 p.2 = s
  have number_before := Finset.card_filter_add_card_filter_not
    (s := Finset.univ.filter fun p : Fin w × Fin h =>
    before.get p.1 p.2 = s) fun p => after.get p.1 p.2 = s
  rw [Finset.filter_filter, Finset.filter_filter] at number_after number_before
  rw [entered, number, number, ← number_after, ← number_before, stay, flow]
  push_cast
  ring

theorem sum_card_filter (distinct : states.Nodup) (g : Grid State w h)
    (cells : Finset (Fin w × Fin h)) (inside : ∀ p ∈ cells, g.get p.1 p.2 ∈ states) :
    (states.map fun s => (cells.filter fun p => g.get p.1 p.2 = s).card).sum = cells.card := by
  have fibers := Finset.card_eq_sum_card_fiberwise (t := states.toFinset)
    (f := fun p => g.get p.1 p.2)
    fun p there => List.mem_toFinset.2 (inside p there)
  rw [fibers, List.sum_toFinset _ distinct]

theorem sum_number (distinct : states.Nodup) (g : Grid State w h) :
    (states.map g.number).sum = g.numberIn states := by
  rw [numberIn, ← sum_card_filter distinct g _ (by simp)]
  refine congrArg List.sum (List.map_congr_left ?_)
  intro s inside
  rw [number, Finset.filter_filter]
  congr 1
  ext p
  simp only [Finset.mem_filter, Finset.mem_univ, true_and]
  constructor
  · rintro rfl
    exact ⟨inside, rfl⟩
  · exact And.right

theorem sum_entered (distinct : states.Nodup) (inside : ∀ x y, after.get x y ∈ states) :
    (states.map fun s => (before.flow after s).entered).sum = before.distance after := by
  have changed := sum_card_filter distinct after
    (Finset.univ.filter fun p => before.get p.1 p.2 ≠ after.get p.1 p.2) fun p _ => inside p.1 p.2
  rw [distance_eq_card, ← changed, Nat.cast_list_sum, List.map_map]
  refine congrArg List.sum (List.map_congr_left ?_)
  intro s _
  simp only [flow, Function.comp_apply, Finset.filter_filter]
  congr 2
  ext p
  simp only [Finset.mem_filter, Finset.mem_univ, true_and]
  constructor
  · rintro ⟨moved, rfl⟩
    exact ⟨moved, rfl⟩
  · rintro ⟨moved, rfl⟩
    exact ⟨moved, rfl⟩

theorem sum_cast_number (distinct : states.Nodup) (g : Grid State w h) :
    (states.map fun s => (g.number s : ℤ)).sum = g.numberIn states := by
  rw [← sum_number distinct, Nat.cast_list_sum, List.map_map]
  rfl

theorem numberIn_congr {other : List State} (same : ∀ s, s ∈ states ↔ s ∈ other)
    (g : Grid State w h) :
    g.numberIn states = g.numberIn other := by simp only [numberIn, same]

/-- When no cell goes from a state among the given ones to another one or back, their cells stay the
same in number. -/
theorem numberIn_eq_of_closed
    (closed : ∀ x y, before.get x y ∈ states ↔ after.get x y ∈ states) :
    before.numberIn states = after.numberIn states := by simp only [numberIn, closed]

theorem sum_flow (distinct : states.Nodup) :
    (states.map fun s => (before.flow after s).entered).sum +
        (states.map fun s => (before.flow after s).left).sum =
      after.numberIn states - before.numberIn states := by
  rw [← sum_cast_number distinct, ← sum_cast_number distinct, eq_sub_iff_add_eq, ← List.sum_map_add,
    ← List.sum_map_add]
  refine congrArg List.sum (List.map_congr_left ?_)
  intro s _
  rw [flow_balance, sub_add_cancel]

theorem sum_left (distinct : states.Nodup) (inside : ∀ x y, before.get x y ∈ states)
    (inside' : ∀ x y, after.get x y ∈ states) :
    (states.map fun s => (before.flow after s).left).sum = -(before.distance after : ℤ) := by
  have balance := @sum_flow _ _ before after states distinct
  rw [sum_entered distinct inside',
    numberIn_eq_of_closed fun x y => iff_of_true (inside x y) (inside' x y), sub_self] at balance
  exact eq_neg_of_add_eq_zero_right balance

end Grid

namespace Round

theorem entered_map (states : List State) (f : State → Delta) :
    entered (states.map f) = (states.map fun s => (f s).entered).sum := by
  induction states with
  | nil => rfl
  | cons s states ih => rw [List.map_cons, List.map_cons, List.sum_cons, ← ih]; rfl

theorem left_map (states : List State) (f : State → Delta) :
    left (states.map f) = (states.map fun s => (f s).left).sum := by
  induction states with
  | nil => rfl
  | cons s states ih => rw [List.map_cons, List.map_cons, List.sum_cons, ← ih]; rfl

end Round

namespace History

theorem moves_ne_nil (wide : 0 < w) (high : 0 < h) : Grid.places w h ≠ [] :=
  List.ne_nil_of_mem (Grid.mem_places (⟨0, wide⟩, ⟨0, high⟩))

theorem recordAll_next (past : History) (distinct : past.states.Nodup) (wide : 0 < w) (high : 0 < h)
    (before after : Grid State w h) :
    past.recordAll past.rounds.size before after =
      ⟨past.states, past.rounds.push (past.states.map (before.flow after))⟩ := by
  have some : Grid.moves before after ≠ [] := by simpa [Grid.moves] using moves_ne_nil wide high
  calc
    _ = past.recordMoves past.rounds.size (Grid.moves before after) := by
      rw [recordAll, recordMoves, Grid.zip_toList, Grid.moves, List.foldl_map, List.foldl_map]
    _ = _ := by
      rw [recordMoves_new past distinct _ some, funext Grid.delta_moves]

variable {states : List State} {rounds : Array Round} {s : State}

theorem delta?_push_of_lt {round : ℕ} (old : round < rounds.size) (r : Round) :
    delta? ⟨states, rounds.push r⟩ round s = delta? ⟨states, rounds⟩ round s := by
  simp [delta?, round?, Array.getElem?_push_lt, old]

/-- What a round tells of a tracked state. -/
theorem delta?_of_round? {past : History} {round : ℕ} {f : State → Delta}
    (told : past.round? round = some (past.states.map f)) (tracked : s ∈ past.states) :
    past.delta? round s = some (f s) := by
  obtain ⟨i, found⟩ := Option.isSome_iff_exists.1 (List.isSome_idxOf?.2 tracked)
  obtain ⟨inside, there, -⟩ := List.idxOf?_eq_some_iff.1 found
  simp [delta?, told, found, inside, there]

theorem delta?_push_size (f : State → Delta) (tracked : s ∈ states) :
    delta? ⟨states, rounds.push (states.map f)⟩ rounds.size s = some (f s) :=
  delta?_of_round? Array.getElem?_push_size tracked

/-- The sum over all rounds of the cells that entered and left a state. -/
def net (past : History) (s : State) : ℤ :=
  ((List.range past.rounds.size).map fun round =>
    (past.delta? round s).elim 0 fun d => d.entered + d.left).sum

theorem net_push (f : State → Delta) (tracked : s ∈ states) :
    net ⟨states, rounds.push (states.map f)⟩ s =
      net ⟨states, rounds⟩ s + ((f s).entered + (f s).left) := by
  rw [net, Array.size_push, List.range_succ, List.map_append, List.sum_append, List.map_singleton,
    List.sum_singleton, delta?_push_size f tracked, Option.elim_some]
  congr 2
  apply List.map_congr_left
  intro round inside
  rw [delta?_push_of_lt (List.mem_range.1 inside)]

end History

end CellularAutomaton
