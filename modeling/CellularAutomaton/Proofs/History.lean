import CellularAutomaton.Proofs.Counts

/-!
# Rounds of a history

When the cells of a generation are recorded after each other, in a round that is not there yet, the
history gets one more round, and this holds for each tracked state how many cells entered and left
it. The difference of both is the change of the number of cells in the state, so the sum over all
rounds follows the number of cells from generation to generation.
-/

namespace CellularAutomaton

variable {w h : ℕ}

namespace State

theorem pairwise_ascending (ss : List State) : (State.ascending ss).Pairwise (· < ·) := by
  induction ss with
  | nil => exact List.Pairwise.nil
  | cons s ss ih => exact pairwise_insert ih

theorem nodup_ascending (ss : List State) : (State.ascending ss).Nodup :=
  (pairwise_ascending ss).imp Int32.ne_of_lt

end State

/-! ## One round -/

namespace Round

variable {states : List State}

theorem modify_map_idxOf? (distinct : states.Nodup) (f : State → Delta)
    (g : Delta → Delta) {s : State} {i : ℕ} (found : states.idxOf? s = some i) :
    (states.map f).modify i g = states.map fun t => if t = s then g (f t) else f t := by
  obtain ⟨inside, there, -⟩ := List.idxOf?_eq_some_iff.1 found
  apply List.ext_getElem
  · simp
  · intro j _ hj
    have bound : j < states.length := by simpa using hj
    have same : i = j ↔ states[j] = s := by
      rw [← there, eq_comm]
      exact distinct.getElem_inj_iff.symm
    simp [List.getElem_modify, same]

theorem enter_map (distinct : states.Nodup) (f : State → Delta) (s : State) :
    enter (states.map f) (states.idxOf? s) =
      states.map fun t => if t = s then ⟨(f t).entered + 1, (f t).left⟩ else f t := by
  cases found : states.idxOf? s with
  | some i => exact modify_map_idxOf? distinct f _ found
  | none =>
    have absent := List.idxOf?_eq_none_iff.1 found
    exact List.map_congr_left fun t inside => (if_neg (ne_of_mem_of_not_mem inside absent)).symm

theorem leave_map (distinct : states.Nodup) (f : State → Delta) (s : State) :
    leave (states.map f) (states.idxOf? s) =
      states.map fun t => if t = s then ⟨(f t).entered, (f t).left - 1⟩ else f t := by
  cases found : states.idxOf? s with
  | some i => exact modify_map_idxOf? distinct f _ found
  | none =>
    have absent := List.idxOf?_eq_none_iff.1 found
    exact List.map_congr_left fun t inside => (if_neg (ne_of_mem_of_not_mem inside absent)).symm

end Round

/-- A cell that had the first state, if any, and has the second one now. -/
abbrev Move := Option State × State

namespace Move

def changes (m : Move) : Bool := m.1 ≠ some m.2

def count (states : List State) (r : Round) (m : Move) : Round :=
  if m.1 = some m.2 then r else History.move states m.1 m.2 r

/-- What moves amount to for one state. -/
def delta (moves : List Move) (s : State) : Delta where
  entered := moves.countP fun m => m.changes && m.2 = s
  left := -(moves.countP fun m => m.changes && m.1 = some s : ℕ)

theorem delta_singleton {m : Move} (moved : m.1 ≠ some m.2) (s : State) :
    delta [m] s = ⟨if s = m.2 then 1 else 0, if m.1 = some s then -1 else 0⟩ := by
  simp only [delta, changes, List.countP_singleton, eq_comm (a := s)]
  split_ifs <;> simp_all

theorem count_map {states : List State} (distinct : states.Nodup) (f : State → Delta) (m : Move) :
    count states (states.map f) m = states.map fun s =>
      ⟨(f s).entered + (delta [m] s).entered, (f s).left + (delta [m] s).left⟩ := by
  obtain ⟨before, after⟩ := m
  by_cases still : before = some after
  · rw [count, if_pos still]
    simp [delta, changes, still]
  · rw [count, if_neg still, History.move]
    cases before with
    | none =>
      rw [Option.bind_none, Round.leave, Round.enter_map distinct]
      apply List.map_congr_left
      intro s _
      rw [delta_singleton still]
      split_ifs <;> simp_all
    | some b =>
      rw [Option.bind_some, Round.leave_map distinct, Round.enter_map distinct]
      apply List.map_congr_left
      intro s _
      rw [delta_singleton still]
      simp only [Option.some.injEq, eq_comm (a := b)]
      split_ifs <;> simp [sub_eq_add_neg]

theorem delta_cons (m : Move) (moves : List Move) (s : State) :
    delta (m :: moves) s =
      ⟨(delta [m] s).entered + (delta moves s).entered,
        (delta [m] s).left + (delta moves s).left⟩ := by
  simp only [delta, List.countP_cons, List.countP_nil]
  congr 1 <;> push_cast <;> ring

theorem foldl_count {states : List State} (distinct : states.Nodup) (f : State → Delta)
    (moves : List Move) :
    moves.foldl (count states) (states.map f) = states.map fun s =>
      ⟨(f s).entered + (delta moves s).entered, (f s).left + (delta moves s).left⟩ := by
  induction moves generalizing f with
  | nil => simp [delta]
  | cons m moves ih =>
    rw [List.foldl_cons, count_map distinct, ih]
    apply List.map_congr_left
    intro s _
    rw [delta_cons m moves s]
    congr 1 <;> dsimp only <;> ring

end Move

/-! ## A new round -/

namespace History

def recordMoves (past : History) (round : ℕ) (moves : List Move) : History :=
  moves.foldl (fun past m => past.record round m.1 m.2) past

theorem size_reach (past : History) (round : ℕ) :
    (past.reach round).rounds.size = max past.rounds.size (round + 1) := by
  simp [reach]
  omega

theorem size_record (past : History) (round : ℕ) (before : Option State) (after : State) :
    (past.record round before after).rounds.size = max past.rounds.size (round + 1) := by
  rw [← size_reach, record]
  dsimp only
  split_ifs <;> simp

theorem reach_last (states : List State) (rounds : Array Round) (r : Round) :
    reach rounds.size ⟨states, rounds.push r⟩ = ⟨states, rounds.push r⟩ := by simp [reach]

theorem reach_new (states : List State) (rounds : Array Round) :
    reach rounds.size ⟨states, rounds⟩ = ⟨states, rounds.push (.empty states)⟩ := by simp [reach]

theorem modify_push_size (rounds : Array Round) (r : Round) (f : Round → Round) :
    (rounds.push r).modify rounds.size f = rounds.push (f r) := by
  apply Array.ext
  · simp
  · intro i _ hi
    rw [Array.getElem_modify]
    rcases Nat.lt_or_ge i rounds.size with old | new
    · simp [Array.getElem_push, old, Nat.ne_of_gt old]
    · obtain rfl : i = rounds.size := by
        rw [Array.size_push] at hi
        omega
      simp

theorem record_last (states : List State) (rounds : Array Round) (r : Round) (m : Move) :
    record ⟨states, rounds.push r⟩ rounds.size m.1 m.2 =
      ⟨states, rounds.push (Move.count states r m)⟩ := by
  rw [record, reach_last]
  dsimp only
  rw [Move.count, modify_push_size]
  split_ifs <;> rfl

theorem record_new (past : History) (m : Move) :
    past.record past.rounds.size m.1 m.2 =
      ⟨past.states, past.rounds.push (Move.count past.states (.empty past.states) m)⟩ := by
  obtain ⟨states, rounds⟩ := past
  rw [← record_last, record, reach_new, record, reach_last]

theorem recordMoves_last (states : List State) (rounds : Array Round) (r : Round)
    (moves : List Move) :
    recordMoves ⟨states, rounds.push r⟩ rounds.size moves =
      ⟨states, rounds.push (moves.foldl (Move.count states) r)⟩ := by
  induction moves generalizing r with
  | nil => rfl
  | cons m moves ih => exact (congrArg (recordMoves · _ moves) (record_last _ _ _ m)).trans (ih _)

theorem recordMoves_new (past : History) (distinct : past.states.Nodup) (moves : List Move)
    (some : moves ≠ []) :
    past.recordMoves past.rounds.size moves =
      ⟨past.states, past.rounds.push (past.states.map (Move.delta moves))⟩ := by
  obtain ⟨m, rest, rfl⟩ := List.exists_cons_of_ne_nil some
  calc
    _ = recordMoves ⟨past.states, past.rounds.push (Move.count past.states (.empty past.states) m)⟩
        past.rounds.size rest := congrArg (recordMoves · _ rest) (record_new past m)
    _ = ⟨past.states, past.rounds.push
      ((m :: rest).foldl (Move.count past.states) (.empty past.states))⟩ :=
      recordMoves_last _ _ _ _
    _ = _ := by
      have blank : Round.empty past.states = past.states.map fun _ => ⟨0, 0⟩ := by
        simp [Round.empty]
      rw [blank, Move.foldl_count distinct]
      simp

end History

end CellularAutomaton
