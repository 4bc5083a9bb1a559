import CellularAutomaton.Proofs.Change

/-!
# What a history accounts for

The number of cells in a possible state is compared with the sum of all that the history tells about
the state. Both are the same after the cells have been drawn. From then on steps change both by the
same amount, and only a successful edit of the cells, of which the history tells nothing, changes
their difference.
-/

namespace CellularAutomaton

variable {w h : ℕ}

/-- The round `n` tells of every move from one generation to another, and in total of the change of
the number of cells that are in possible states. -/
structure History.Accounts (past : History) (n : ℕ) (states : List State)
    (before after : Grid State w h) :
    Prop where
  delta : ∀ s ∈ states, past.delta? n s = some (before.flow after s)
  total : ∃ r, past.round? n = some r ∧
    r.entered + r.left = (after.numberIn states : ℤ) - before.numberIn states ∧
    ((∀ x y, before.get x y ∈ states ↔ after.get x y ∈ states) → r.entered + r.left = 0)

theorem History.accounts {past : History} {n : ℕ} {states : List State}
    {before after : Grid State w h} (tracked : past.states = State.ascending states)
    (told : past.round? n = some (past.states.map (before.flow after))) :
    past.Accounts n states before after := by
  have same : ∀ s, s ∈ past.states ↔ s ∈ states := fun s => by rw [tracked, State.mem_ascending]
  have distinct : past.states.Nodup := by
    rw [tracked]
    exact State.nodup_ascending _
  have balance : Round.entered (past.states.map (before.flow after)) +
      Round.left (past.states.map (before.flow after)) =
      (after.numberIn states : ℤ) - before.numberIn states := by
    rw [Round.entered_map, Round.left_map, Grid.sum_flow distinct, Grid.numberIn_congr same,
      Grid.numberIn_congr same]
  refine ⟨?_, _, told, balance, ?_⟩
  · intro s possible
    obtain ⟨i, found⟩ := Option.isSome_iff_exists.1 (List.isSome_idxOf?.2 ((same s).2 possible))
    obtain ⟨inside, there, -⟩ := List.idxOf?_eq_some_iff.1 found
    simp [History.delta?, told, found, inside, there]
  · intro closed
    rw [balance, Grid.numberIn_eq_of_closed closed, sub_self]

namespace World

variable {world : World w h}

/-- By how much the number of cells in a state exceeds what the history tells about the state. -/
def imbalance (world : World w h) (s : State) : ℤ :=
  world.snapshot.occurrences s - world.history.net s

theorem imbalance_of_begun (begun : world.status ≠ .uninitialized) (s : State) :
    world.imbalance s = world.cells.number s - world.history.net s := by
  rw [imbalance, occurrences_snapshot begun]

theorem Sound.imbalance_advance (sound : world.Sound) (active : world.Active)
    (next : Grid State w h) {s : State} (possible : s ∈ world.rules.states) :
    (world.advance next).imbalance s = world.imbalance s := by
  have begun := world.advance_begun next
  have cells : (world.advance next).cells = next := rfl
  rw [imbalance_of_begun begun, imbalance_of_begun active.begun, sound.history_advance active,
    History.net_push _ (sound.mem_tracked.2 possible), Grid.flow_balance, cells]
  ring

theorem Sound.imbalance_step (sound : world.Sound) {s : State} (possible : s ∈ world.rules.states) :
    world.step.2.imbalance s = world.imbalance s := by
  obtain ⟨-, same⟩ | ⟨-, same⟩ | ⟨active, next, -, moved⟩ | ⟨-, -, e, scratch, failed⟩ :=
    world.step_cases
  · rw [same]
  · rw [same]
  · rw [moved]
    exact sound.imbalance_advance active next possible
  · rw [failed]
    rfl

theorem Sound.imbalance_run (sound : world.Sound) {s : State} (possible : s ∈ world.rules.states)
    (max : Option ℕ) : (world.run max).2.imbalance s = world.imbalance s := by
  have kept : ∀ other : World w h,
      other.Sound ∧ other.rules = world.rules ∧ other.imbalance s = world.imbalance s →
      other.step.2.Sound ∧ other.step.2.rules = world.rules ∧
      other.step.2.imbalance s = world.imbalance s := by
    rintro other ⟨sound, rules, same⟩
    refine ⟨sound.step, other.rules_step.trans rules, ?_⟩
    rw [← rules] at possible
    rw [sound.imbalance_step possible, same]
  exact (run_keeps kept ⟨sound, rfl, rfl⟩ max).2.2

theorem Sound.imbalance_randomize (sound : world.Sound) (words : Random.Words) {s : State}
    (possible : s ∈ world.rules.states) : (world.randomize words).2.imbalance s = 0 := by
  obtain ⟨cells, -, after⟩ := sound.randomize_eq words
  have net := @History.net_push _ #[] _ (fun s => ⟨cells.number s, 0⟩)
    (State.mem_ascending.2 possible)
  rw [after, imbalance_of_begun (by simp)]
  dsimp only
  rw [show (#[_] : Array Round) = #[].push _ from rfl, net]
  simp [History.net]

end World

/-! ## Sequences of operations -/

namespace Operation

def performAll (world : World w h) (ops : List Operation) : World w h :=
  ops.foldl (fun world op => (op.perform world).2) world

theorem reachable_performAll {world : World w h} (reachable : Reachable world)
    (ops : List Operation) :
    Reachable (performAll world ops) := by
  induction ops generalizing world with
  | nil => exact reachable
  | cons op ops ih => exact ih (.perform op reachable)

/-- Whether an operation sets cells by hand, and succeeds. -/
def Edits (world : World w h) (op : Operation) : Prop :=
  ((∃ edge s, op = .seedEdge edge s) ∨ ∃ c s, op = .setCell c s) ∧ (op.perform world).1 = .ok .done

/-- Neither draws one of the operations new cells, nor does one edit them. -/
def Quiet (world : World w h) : List Operation → Prop
  | [] => True
  | op :: ops => (∀ words, op ≠ .randomize words) ∧ ¬op.Edits world ∧ Quiet (op.perform world).2 ops

variable {world : World w h}

theorem imbalance_perform (sound : world.Sound) {op : Operation}
    (keeps : ∀ words, op ≠ .randomize words) (noEdit : ¬op.Edits world) {s : State}
    (possible : s ∈ world.rules.states) :
    (op.perform world).2.imbalance s = world.imbalance s := by
  cases op with
  | setStrict strict => rfl
  | randomize words => exact absurd rfl (keeps words)
  | seedEdge edge s =>
    obtain ⟨e, failed⟩ | ⟨-, cells, done⟩ := world.seedEdge_cases sound.wide sound.high edge s
    · show (world.seedEdge edge s).2.imbalance _ = _
      rw [failed]
    · have answer : (perform world (.seedEdge edge s)).1 = .ok .done := by rw [perform, done]; rfl
      exact absurd ⟨.inl ⟨edge, s, rfl⟩, answer⟩ noEdit
  | setCell c s =>
    obtain ⟨e, failed⟩ | ⟨-, cells, done⟩ := world.setCell_cases c s
    · show (world.setCell c s).2.imbalance _ = _
      rw [failed]
    · have answer : (perform world (.setCell c s)).1 = .ok .done := by rw [perform, done]; rfl
      exact absurd ⟨.inr ⟨c, s, rfl⟩, answer⟩ noEdit
  | step => exact sound.imbalance_step possible
  | run max => exact sound.imbalance_run possible max

theorem imbalance_performAll {ops : List Operation} (sound : world.Sound)
    (quiet : Quiet world ops) {s : State} (possible : s ∈ world.rules.states) :
    (performAll world ops).imbalance s = world.imbalance s := by
  induction ops generalizing world with
  | nil => rfl
  | cons op ops ih =>
    obtain ⟨keeps, noEdit, quiet⟩ := quiet
    rw [← imbalance_perform sound keeps noEdit possible]
    rw [← sound.rules_perform op] at possible
    exact ih (sound.perform op) quiet possible

end Operation

/-! ## The generations of a world -/

namespace World

/-- Generations that lead to the present one by the rules, and of which the history tells. -/
structure Recounts (world : World w h) (generations : ℕ → Grid State w h) : Prop where
  present : generations world.iteration = world.cells
  follows : ∀ n < world.iteration, ∀ x y,
    world.rules.target (generations n) x y = .ok ((generations (n + 1)).get x y)
  told : ∀ n < world.iteration, world.history.round? (n + 1) =
    some (world.history.states.map ((generations n).flow (generations (n + 1))))

variable {world : World w h}

theorem recounts_of_iteration_eq_zero (begins : world.iteration = 0) :
    world.Recounts fun _ => world.cells :=
  ⟨rfl, by simp [begins], by simp [begins]⟩

theorem Sound.recounts_advance (sound : world.Sound) (active : world.Active) {next : Grid State w h}
    (goes : world.next? = some next) {generations : ℕ → Grid State w h}
    (recounts : world.Recounts generations) :
    (world.advance next).Recounts (Function.update generations (world.iteration + 1) next) := by
  have size := sound.rounds_size active.begun
  have history := sound.history_advance active next
  have old : ∀ n, n ≤ world.iteration →
      Function.update generations (world.iteration + 1) next n = generations n := fun n bound =>
    Function.update_of_ne (Nat.ne_of_lt (Nat.lt_succ_of_le bound)) _ _
  have new : Function.update generations (world.iteration + 1) next (world.iteration + 1) = next :=
    Function.update_self _ _ _
  refine ⟨new, ?_, ?_⟩
  · intro n bound x y
    rw [old n (Nat.le_of_lt_succ bound)]
    rcases Nat.lt_succ_iff_lt_or_eq.1 bound with earlier | rfl
    · rw [old (n + 1) earlier]
      exact recounts.follows n earlier x y
    · rw [new, recounts.present]
      exact (RuleSet.allowed?_eq_some.1 (RuleSet.globalMap_eq_some.1 goes x y)).1
  · intro n bound
    rw [old n (Nat.le_of_lt_succ bound), history, History.round?]
    dsimp only
    rcases Nat.lt_succ_iff_lt_or_eq.1 bound with earlier | rfl
    · rw [old (n + 1) earlier, Array.getElem?_push_lt (by omega), ← Array.getElem?_eq_getElem]
      exact recounts.told n earlier
    · rw [new, recounts.present, ← size, Array.getElem?_push_size]

end World

theorem Reachable.recounts {world : World w h} (reachable : Reachable world) :
    ∃ generations, world.Recounts generations := by
  refine reachable.keeps (P := fun world => ∃ generations, world.Recounts generations) ?_ ?_
  · intro r world made
    obtain ⟨-, -, sampler, -, rfl⟩ := World.new_eq_ok made
    exact ⟨_, World.recounts_of_iteration_eq_zero rfl⟩
  · rintro before after reachable change ⟨generations, recounts⟩
    have sound := reachable.sound
    cases change with
    | setStrict strict => exact ⟨generations, { recounts with }⟩
    | randomize words =>
      obtain ⟨cells, -, drawn⟩ := sound.randomize_eq words
      rw [drawn]
      exact ⟨_, World.recounts_of_iteration_eq_zero rfl⟩
    | edit status cells seeded =>
      exact ⟨_, World.recounts_of_iteration_eq_zero (sound.begins (.inr status))⟩
    | advance active goes => exact ⟨_, sound.recounts_advance active goes recounts⟩
    | abandon active scratch => exact ⟨generations, { recounts with }⟩

/-- A successful step appends one round, which tells all moves. So the history keeps up with the
cells, but for edits by hand, and all of its rounds tell the moves of the generations that have
been. -/
theorem history_accounts_for_cells {world : World w h} (reachable : Reachable world) :
    (∀ n, world.Active → world.step.1 = .ok n →
      (∃ round, world.step.2.history.rounds = world.history.rounds.push round) ∧
      world.step.2.history.Accounts world.history.rounds.size world.rules.states world.cells
        world.step.2.cells) ∧
    (∀ s ∈ world.rules.states,
      (∀ words, (world.randomize words).1 = .ok () ∧ (world.randomize words).2.imbalance s = 0) ∧
      world.step.2.imbalance s = world.imbalance s ∧
      (∀ max, (world.run max).2.imbalance s = world.imbalance s) ∧
      (∀ op : Operation, (op.perform world).2.imbalance s ≠ world.imbalance s →
        op.Edits world ∨ ∃ words, op = .randomize words) ∧
      ∀ ops, Operation.Quiet world ops →
        (Operation.performAll world ops).imbalance s = world.imbalance s) ∧
    (world.status ≠ .uninitialized → world.history.rounds.size = world.iteration + 1) ∧
    ∃ generations : ℕ → Grid State w h, generations world.iteration = world.cells ∧
      ∀ n, n + 1 < world.history.rounds.size →
        (∀ x y, world.rules.target (generations n) x y = .ok ((generations (n + 1)).get x y)) ∧
        world.history.Accounts (n + 1) world.rules.states (generations n)
          (generations (n + 1)) := by
  have sound := reachable.sound
  refine ⟨?_, ?_, sound.rounds_size, ?_⟩
  · intro n active answer
    obtain ⟨next, -, -, moved⟩ := World.exists_next_of_step_eq_ok active answer
    have history := sound.history_advance active next
    rw [moved, history]
    refine ⟨⟨_, rfl⟩, History.accounts sound.tracked ?_⟩
    exact Array.getElem?_push_size
  · intro s possible
    refine ⟨fun words => ⟨?_, sound.imbalance_randomize words possible⟩,
      sound.imbalance_step possible, sound.imbalance_run possible, fun op changed => ?_,
        fun ops quiet =>
      Operation.imbalance_performAll sound quiet possible⟩
    · obtain ⟨cells, -, after⟩ := sound.randomize_eq words
      rw [after]
    · by_contra quiet
      rw [not_or, not_exists] at quiet
      exact changed (Operation.imbalance_perform sound quiet.2 quiet.1 possible)
  · obtain ⟨generations, recounts⟩ := reachable.recounts
    refine ⟨generations, recounts.present, ?_⟩
    intro n inside
    have bound : n < world.iteration := by
      have size := sound.rounds
      split_ifs at size <;> omega
    exact ⟨recounts.follows n bound, History.accounts sound.tracked (recounts.told n bound)⟩

/-- The first step of the forest appends a round in which two cells catch fire, and one burns
out. -/
theorem history_accounts_for_cells_forest :
    Reachable forest ∧ forest.Active ∧ forest.step.1 = .ok 3 ∧
      forest.step.2.history.Accounts 1 [0, 1, 2] forest.cells forest.step.2.cells :=
  ⟨reachable_forest, .inl rfl, rfl,
    ((history_accounts_for_cells reachable_forest).1 3 (.inl rfl) rfl).2⟩

end CellularAutomaton
