import CellularAutomaton.Proofs.Flow

/-!
# Histories of reported changes

A history is told of one change after another, each with its round. What it knows then is a table of
counts: it has a row for each round up to the last one that was reported, and for each tracked state
this row holds how many of the changes of the round entered the state and how many left it. The
order of the changes in a round does not matter.
-/

namespace CellularAutomaton

/-- A change that is reported: in the round, a cell went from the state before, if it had one, to
the state after. -/
structure Event where
  round : ℕ
  before : Option State
  after : State
  deriving DecidableEq

namespace Event

abbrev move (e : Event) : Move := (e.before, e.after)

def movesIn (round : ℕ) (events : List Event) : List Move :=
  (events.filter (·.round = round)).map move

/-- The least number of rounds that has room for the events. -/
def extent (events : List Event) : ℕ := events.foldr (fun e n => max (e.round + 1) n) 0

variable {events events' : List Event} {round n : ℕ}

/-- The rounds are reported one after another. -/
def Ordered (events : List Event) : Prop := (events.map Event.round).Pairwise (· ≤ ·)

instance : Decidable (Ordered events) := inferInstanceAs (Decidable (List.Pairwise _ _))

theorem movesIn_concat (e : Event) :
    movesIn round (events ++ [e]) =
      if e.round = round then movesIn round events ++ [e.move] else movesIn round events := by
  rw [movesIn, List.filter_append, List.map_append]
  split_ifs with here <;> simp [movesIn, here]

theorem movesIn_eq_nil (absent : ∀ e ∈ events, e.round ≠ round) : movesIn round events = [] := by
  rw [movesIn, List.map_eq_nil_iff, List.filter_eq_nil_iff]
  exact fun e inside => by simp [absent e inside]

theorem countP_movesIn (p : Move → Bool) :
    (movesIn round events).countP p = events.countP fun e => e.round = round ∧ p e.move := by
  rw [movesIn, List.countP_map, List.countP_filter]
  exact List.countP_congr fun e _ => by simp [and_comm]

theorem changes_move (before : Option State) (after : State) :
    Move.changes (before, after) = !decide (before = some after) := by simp [Move.changes]

/-- What the moves of a round amount to, in terms of the events. -/
theorem delta_movesIn (s : State) :
    Move.delta (movesIn round events) s =
      ⟨events.countP fun e => e.round = round ∧ e.after = s ∧ e.before ≠ some s,
        -(events.countP fun e => e.round = round ∧ e.before = some s ∧ e.after ≠ s : ℕ)⟩ := by
  have entered : ∀ e : Event, (e.move.changes && e.move.2 = s) =
      decide (e.after = s ∧ e.before ≠ some s) := by
    intro e
    by_cases there : e.after = s <;> simp [changes_move, move, there]
  have left : ∀ e : Event, (e.move.changes && e.move.1 = some s) =
      decide (e.before = some s ∧ e.after ≠ s) := by
    intro e
    by_cases there : e.before = some s <;> simp [changes_move, move, there, eq_comm (a := s)]
  simp only [Move.delta, countP_movesIn, entered, left, decide_eq_true_eq]

theorem countP_entering (tracked : List State) :
    (movesIn round events).countP (fun m => m.changes && m.2 ∈ tracked) =
      events.countP fun e => e.round = round ∧ e.after ∈ tracked ∧ e.before ≠ some e.after := by
  have entered : ∀ e : Event, (e.move.changes && e.move.2 ∈ tracked) =
      decide (e.after ∈ tracked ∧ e.before ≠ some e.after) := by
    intro e
    rw [Bool.eq_iff_iff]
    simp [changes_move, move, and_comm]
  simp only [countP_movesIn, entered, decide_eq_true_eq]

theorem extent_le_iff : extent events ≤ n ↔ ∀ e ∈ events, e.round < n := by
  induction events with
  | nil => simp [extent]
  | cons e events ih =>
    rw [extent, List.foldr_cons, ← extent, max_le_iff, ih, List.forall_mem_cons, Nat.succ_le_iff]

theorem extent_concat (e : Event) : extent (events ++ [e]) = max (extent events) (e.round + 1) := by
  apply eq_of_forall_ge_iff
  intro n
  rw [extent_le_iff, max_le_iff, extent_le_iff, List.forall_mem_append, List.forall_mem_singleton,
    Nat.succ_le_iff]

theorem Ordered.extent_concat {e : Event} (ordered : Ordered (events ++ [e])) :
    extent (events ++ [e]) = e.round + 1 := by
  rw [Event.extent_concat]
  refine max_eq_right (extent_le_iff.2 fun earlier inside => ?_)
  rw [Ordered, List.map_append, List.pairwise_append] at ordered
  exact Nat.lt_succ_of_le (ordered.2.2 _ (List.mem_map_of_mem inside) _ (by simp))

end Event

open Event

namespace Move

theorem empty_eq (tracked : List State) : Round.empty tracked = tracked.map (delta []) :=
  List.map_const'.symm

theorem delta_concat (moves : List Move) (m : Move) (s : State) :
    delta (moves ++ [m]) s =
      ⟨(delta moves s).entered + (delta [m] s).entered,
        (delta moves s).left + (delta [m] s).left⟩ := by
  simp only [delta, List.countP_append]
  congr 1
  push_cast
  ring

theorem count_map_delta {tracked : List State} (distinct : tracked.Nodup) (moves : List Move)
    (m : Move) :
    count tracked (tracked.map (delta moves)) m = tracked.map (delta (moves ++ [m])) := by
  rw [count_map distinct]
  exact List.map_congr_left fun s _ => (delta_concat moves m s).symm

theorem delta_perm {moves moves' : List Move} (perm : moves.Perm moves') :
    delta moves = delta moves' := by
  funext s
  rw [delta, delta, perm.countP_eq, perm.countP_eq]

/-- Every move into a tracked state is counted for one of them. -/
theorem entered_delta {tracked : List State} (distinct : tracked.Nodup) (moves : List Move) :
    Round.entered (tracked.map (delta moves)) =
      (moves.countP fun m => m.changes && m.2 ∈ tracked : ℕ) := by
  rw [Round.entered_map]
  induction tracked with
  | nil => simp
  | cons s tracked ih =>
    obtain ⟨fresh, distinct⟩ := List.nodup_cons.1 distinct
    rw [List.map_cons, List.sum_cons, ih distinct, delta, ← Nat.cast_add]
    congr 1
    clear ih
    induction moves with
    | nil => rfl
    | cons m moves ih =>
      rw [List.countP_cons, List.countP_cons, List.countP_cons, ← ih]
      -- no move is into `s` and into one of the others
      by_cases here : m.2 = s
      · simp [here, fresh]
        omega
      · simp [here]
        omega

end Move

namespace History

/-- The history that comes of changes that are reported one after another. -/
def ofEvents (states : List State) (events : List Event) : History :=
  events.foldl (fun past e => past.record e.round e.before e.after) (.start states)

/-- The history of so many rounds that counts the events of each round for each of the tracked
states. -/
def table (tracked : List State) (events : List Event) (n : ℕ) : History :=
  ⟨tracked, ((List.range n).map fun r => tracked.map (Move.delta (movesIn r events))).toArray⟩

variable {tracked : List State} {events events' : List Event} {n r : ℕ}

theorem size_table : (table tracked events n).rounds.size = n := by simp [table]

theorem round?_table (inside : r < n) :
    (table tracked events n).round? r = some (tracked.map (Move.delta (movesIn r events))) := by
  simp [table, round?, inside]

theorem eq_table {past : History} (states : past.states = tracked) (size : past.rounds.size = n)
    (rounds : ∀ r < n, past.round? r = some (tracked.map (Move.delta (movesIn r events)))) :
    past = table tracked events n := by
  obtain ⟨tracked', rounds'⟩ := past
  obtain rfl : tracked' = tracked := states
  rw [table, mk.injEq]
  refine ⟨rfl, Array.ext (by simpa using size) fun r bound _ => ?_⟩
  have told := rounds r (size ▸ bound)
  rw [round?, Array.getElem?_eq_getElem bound] at told
  simpa using Option.some.inj told

/-- Rounds that nothing is reported of are empty. -/
theorem reach_table (room : ∀ e ∈ events, e.round < n) (r : ℕ) :
    (table tracked events n).reach r = table tracked events (max n (r + 1)) := by
  refine eq_table rfl ?_ fun r' inside => ?_
  · rw [size_reach, size_table]
  · simp only [reach, round?, table, Array.getElem?_append, Array.getElem?_replicate]
    by_cases old : r' < n
    · simp [old]
    · have none : movesIn r' events = [] :=
        movesIn_eq_nil fun e there => by have := room e there; omega
      have new : r' - n < r + 1 - n := by omega
      simp [old, new, none, Move.empty_eq]

theorem round?_record (past : History) (round : ℕ) (before : Option State) (after : State) (r : ℕ) :
    (past.record round before after).round? r =
      if r = round then ((past.reach round).round? r).map (Move.count past.states · (before, after))
      else (past.reach round).round? r := by
  obtain ⟨tracked, rounds⟩ := past
  by_cases still : before = some after
  · simp [record, reach, round?, Move.count, still]
  · simp [record, reach, round?, Move.count, still, Array.getElem?_modify, eq_comm]

theorem record_table (distinct : tracked.Nodup) (room : ∀ e ∈ events, e.round < n) (e : Event) :
    (table tracked events n).record e.round e.before e.after =
      table tracked (events ++ [e]) (max n (e.round + 1)) := by
  refine eq_table rfl ?_ fun r inside => ?_
  · rw [size_record, size_table]
  · rw [round?_record, reach_table room, round?_table inside, movesIn_concat]
    split_ifs with here other other
    · exact congrArg some (Move.count_map_delta distinct _ e.move)
    · exact absurd here.symm other
    · exact absurd other.symm here
    · rfl

theorem ofEvents_eq_table (states : List State) (events : List Event) :
    ofEvents states events = table (State.ascending states) events (extent events) := by
  induction events using List.reverseRecOn with
  | nil => rfl
  | append_singleton events e ih =>
    rw [ofEvents, List.foldl_append, ← ofEvents, ih, List.foldl_cons, List.foldl_nil,
      record_table (State.nodup_ascending states) (extent_le_iff.1 le_rfl), extent_concat]

theorem delta?_table {s : State} (inside : r < n) (known : s ∈ tracked) :
    (table tracked events n).delta? r s = some (Move.delta (movesIn r events) s) :=
  delta?_of_round? (round?_table inside) known

theorem delta?_eq_none {past : History} {s : State}
    (outside : s ∉ past.states ∨ past.rounds.size ≤ r) :
    past.delta? r s = none := by
  rcases outside with unknown | late
  · simp [delta?, List.idxOf?_eq_none_iff.2 unknown]
  · simp [delta?, round?, late]

theorem ofInt_natCast (n : ℕ) : UInt64.ofInt n = UInt64.ofNat n := by
  apply UInt64.toNat_inj.1
  rw [UInt64.ofInt]
  simp
  omega

theorem changes_table (distinct : tracked.Nodup) :
    (table tracked events n).changes = (List.range n).map fun r =>
      UInt64.ofNat ((movesIn r events).countP fun m => m.changes && m.2 ∈ tracked) := by
  rw [changes, table, List.map_map]
  refine List.map_congr_left fun r _ => ?_
  rw [Function.comp_apply, Move.entered_delta distinct, ofInt_natCast]

theorem table_perm (perm : events.Perm events') :
    table tracked events n = table tracked events' n := by
  have each : ∀ r, Move.delta (movesIn r events) = Move.delta (movesIn r events') :=
    fun r => Move.delta_perm ((perm.filter _).map _)
  simp only [table, each]

/-- However changes are reported of some states, if it is round after round, then the history is the
table of their counts. It ends with the last round that is reported, and rounds that are skipped are
empty. -/
theorem counts_reported_changes (states : List State) {events : List Event}
    (ordered : Ordered events) :
    let past := ofEvents states events
    (past.states.Pairwise (· < ·) ∧ ∀ s, s ∈ past.states ↔ s ∈ states) ∧
    ((events = [] → past.rounds.size = 0) ∧ ∀ e, events.getLast? = some e →
      past.rounds.size = e.round + 1) ∧
    (∀ r < past.rounds.size, (∀ e ∈ events, e.round ≠ r) →
      past.round? r = some (.empty past.states)) ∧
    (∀ r < past.rounds.size, ∀ s ∈ states, past.delta? r s = some
      ⟨events.countP fun e => e.round = r ∧ e.after = s ∧ e.before ≠ some s,
        -(events.countP fun e => e.round = r ∧ e.before = some s ∧ e.after ≠ s : ℕ)⟩) ∧
    (∀ r s, s ∉ states ∨ past.rounds.size ≤ r → past.delta? r s = none) ∧
    past.changes = (List.range past.rounds.size).map (fun r =>
      UInt64.ofNat (events.countP fun e => e.round = r ∧ e.after ∈ states ∧
        e.before ≠ some e.after)) ∧
    ∀ events', events'.Perm events → Ordered events' → ofEvents states events' = past := by
  intro past
  have told : past = table (State.ascending states) events (extent events) :=
    ofEvents_eq_table states events
  have size : past.rounds.size = extent events := by rw [told, size_table]
  have known : ∀ s, s ∈ past.states ↔ s ∈ states := fun s => by rw [told]; exact State.mem_ascending
  refine ⟨⟨?_, known⟩, ⟨?_, ?_⟩, ?_, ?_, ?_, ?_, ?_⟩
  · rw [told]
    exact State.pairwise_ascending states
  · rintro rfl
    exact size
  · intro e last
    obtain ⟨earlier, rfl⟩ := List.getLast?_eq_some_iff.1 last
    rw [size, ordered.extent_concat]
  · intro r inside skipped
    rw [told, round?_table (size ▸ inside), movesIn_eq_nil skipped, ← Move.empty_eq]
    rfl
  · intro r inside s tracked
    rw [told, delta?_table (size ▸ inside) (State.mem_ascending.2 tracked), delta_movesIn]
  · intro r s outside
    exact delta?_eq_none (outside.imp_left (mt (known s).1))
  · rw [size, told, changes_table (State.nodup_ascending states)]
    simp only [countP_entering, State.mem_ascending]
  · intro events' perm _
    have same : extent events' = extent events := eq_of_forall_ge_iff fun n => by
      simp only [extent_le_iff, perm.mem_iff]
    rw [told, ofEvents_eq_table, same, table_perm perm]

/-- The second round is skipped, and some changes are from or to states that are not tracked. -/
theorem counts_reported_changes_skipped :
    let events : List Event := [⟨0, none, 2⟩, ⟨0, none, 7⟩, ⟨0, none, 0⟩, ⟨2, some 2, 0⟩,
      ⟨2, some 7, 2⟩, ⟨2, some 0, 0⟩, ⟨2, some 0, 9⟩]
    let past := ofEvents [2, 0, 1, 0] events
    Ordered events ∧ past.states.Pairwise (· < ·) ∧ past.rounds.size = 3 ∧
      past.round? 1 = some (.empty past.states) ∧ past.delta? 2 2 = some ⟨1, -1⟩ ∧
      past.delta? 2 7 = none ∧
      past.changes = [2, 0, 2] ∧
      ofEvents [2, 0, 1, 0] [⟨0, none, 0⟩, ⟨0, none, 2⟩, ⟨0, none, 7⟩, ⟨2, some 0, 0⟩,
        ⟨2, some 0, 9⟩, ⟨2, some 7, 2⟩, ⟨2, some 2, 0⟩] = past := by
  intro events past
  have ordered : Ordered events := by decide
  obtain ⟨⟨ascending, -⟩, ⟨-, last⟩, skipped, counted, untracked, changes, order⟩ :=
    counts_reported_changes [2, 0, 1, 0] ordered
  have size : past.rounds.size = 3 := last _ rfl
  refine ⟨ordered, ascending, size, ?_, ?_, untracked 2 7 (.inl (by decide)), ?_, ?_⟩
  · exact skipped 1 (size ▸ by decide) (by decide)
  · rw [counted 2 (size ▸ by decide) 2 (by decide)]
    decide
  · rw [changes, size]
    decide
  · exact order _ (by decide) (by decide)

end History

end CellularAutomaton
