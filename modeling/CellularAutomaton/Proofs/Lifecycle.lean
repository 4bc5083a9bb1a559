import CellularAutomaton.Proofs.Change

/-!
# The life of a world

A world has no rounds before it is randomized. From then on it has one for the initialization, in
which every cell enters a possible state, and one for each step. No round is recorded after a later
one, and no round counts more cells than there are.
-/

namespace CellularAutomaton

variable {w h : ℕ}

/-! ## Rounds of a world -/

structure Round.Regular (cells states : ℕ) (r : Round) : Prop where
  length : r.length = states
  signs : ∀ d ∈ r, d.left ≤ 0 ∧ 0 ≤ d.entered
  bounded : 0 ≤ r.entered ∧ r.entered ≤ cells

namespace Grid

variable {states : List State}

theorem numberIn_le (g : Grid State w h) (states : List State) : g.numberIn states ≤ w * h := by
  calc
    _ ≤ Fintype.card (Fin w × Fin h) := Finset.card_le_univ _
    _ = w * h := by simp

theorem numberIn_eq {g : Grid State w h} (inside : ∀ x y, g.get x y ∈ states) :
    g.numberIn states = w * h := by
  simp [numberIn, inside]

/-- A round is regular if no more cells have entered a state than are in it afterwards. -/
theorem regular_map (distinct : states.Nodup) (g : Grid State w h) {f : State → Delta}
    (counts : ∀ s, (f s).left ≤ 0 ∧ 0 ≤ (f s).entered ∧ (f s).entered ≤ g.number s) :
    Round.Regular (w * h) states.length (states.map f) where
  length := List.length_map f
  signs := by
    rw [List.forall_mem_map]
    exact fun s _ => ⟨(counts s).1, (counts s).2.1⟩
  bounded := by
    rw [Round.entered_map]
    constructor
    · apply List.sum_nonneg
      rw [List.forall_mem_map]
      exact fun s _ => (counts s).2.1
    · calc
        _ ≤ (states.map fun s => (g.number s : ℤ)).sum := List.sum_le_sum fun s _ => (counts s).2.2
        _ = g.numberIn states := sum_cast_number distinct g
        _ ≤ (w * h : ℕ) := by exact_mod_cast g.numberIn_le states

theorem regular_flow (distinct : states.Nodup) (before after : Grid State w h) :
    Round.Regular (w * h) states.length (states.map (before.flow after)) := by
  refine regular_map distinct after fun s => ⟨?_, ?_, ?_⟩
  · simp [flow]
  · simp [flow]
  · have fewer : (Finset.univ.filter fun p : Fin w × Fin h =>
        before.get p.1 p.2 ≠ s ∧ after.get p.1 p.2 = s).card ≤ after.number s :=
      Finset.card_le_card (Finset.monotone_filter_right _ fun p _ moved => moved.2)
    exact Nat.cast_le.2 fewer

theorem regular_arrivals (distinct : states.Nodup) (g : Grid State w h) :
    Round.Regular (w * h) states.length (states.map fun s => ⟨g.number s, 0⟩) :=
  regular_map distinct g fun s => ⟨le_rfl, by simp, le_rfl⟩

theorem entered_arrivals (distinct : states.Nodup) {g : Grid State w h}
    (inside : ∀ x y, g.get x y ∈ states) :
    Round.entered (states.map fun s => ⟨g.number s, 0⟩) = (w * h : ℕ) := by
  rw [Round.entered_map, sum_cast_number distinct, numberIn_eq inside]

end Grid

/-! ## Rounds are recorded in order -/

namespace History

theorem size_foldl_record_le {past : History} {round : ℕ} (early : past.rounds.size ≤ round + 1)
    (moves : List (State × State)) :
    (moves.foldl (fun past p => past.record round (some p.1) p.2) past).rounds.size ≤
      round + 1 := by
  induction moves generalizing past with
  | nil => exact early
  | cons m moves ih =>
    apply ih
    rw [size_record]
    omega

end History

namespace World

theorem size_drawCells_le (words : Random.Words) (places : List (Fin w × Fin h)) {world : World w h}
    (early : world.history.rounds.size ≤ 1) :
    (world.drawCells words places).2.history.rounds.size ≤ 1 := by
  induction places generalizing world with
  | nil => exact early
  | cons p places ih =>
    rw [drawCells]
    split
    · exact early
    · apply ih
      dsimp only
      rw [History.size_record]
      omega

end World

/-- An operation on the world records a change in the round after the past. A run records what its
steps do. -/
inductive Operation.Records : World w h → Operation → History → ℕ → Prop
  | randomize {world : World w h} {words : Random.Words} {earlier later : List (Fin w × Fin h)}
      {p : Fin w × Fin h} (order : Grid.places w h = earlier ++ p :: later) :
      Records world (.randomize words)
        (World.drawCells words earlier
          { world with
            history := .start world.rules.states
            iteration := 0
            seeded := false }).2.history 0
  | step {world : World w h} {next : Grid State w h} {earlier later : List (State × State)}
      {p : State × State} (active : world.Active)
      (order : world.cells.toList.zip next.toList = earlier ++ p :: later) :
      Records world .step
        (earlier.foldl (fun past p => past.record (world.iteration + 1) (some p.1) p.2)
          world.history)
        (world.iteration + 1)
  | run {world : World w h} {max : Option ℕ} {n : ℕ} {past : History} {round : ℕ}
      (step : Records (world.steps max n).2 .step past round) : Records world (.run max) past round

/-- When a change is recorded, no later round has been recorded. -/
theorem World.Sound.size_le_of_records {world : World w h} (sound : world.Sound) {op : Operation}
    {past : History} {round : ℕ} (records : op.Records world past round) :
    past.rounds.size ≤ round + 1 := by
  have stepping : ∀ {world : World w h}, world.Sound → Operation.Records world .step past round →
      past.rounds.size ≤ round + 1 := by
    intro world sound records
    cases records with
    | step active order =>
      apply History.size_foldl_record_le
      rw [sound.rounds_size active.begun]
      omega
  cases records with
  | randomize order => exact World.size_drawCells_le _ _ (by simp [History.start])
  | step active order => exact stepping sound (.step active order)
  | run step => exact stepping (World.steps_keeps (fun _ => World.Sound.step) sound _ _) step

/-! ## What holds throughout the life of a world -/

namespace World

variable {world : World w h}

/-- What the status of a world says about its history. -/
structure Chronicled (world : World w h) : Prop where
  unseeded : world.status = .uninitialized → world.seeded = false
  begins : world.iteration = 0 → world.status = .uninitialized ∨ world.status = .randomized
  regular : ∀ r ∈ world.history.rounds, r.Regular (w * h) world.history.states.length
  initial : ∀ r, world.history.round? 0 = some r →
    (∀ d ∈ r, d.left = 0) ∧ r.entered = ((w * h : ℕ) : ℤ)

namespace Chronicled

theorem of_new {r : RuleSet} (made : World.new w h r = .ok world) : world.Chronicled := by
  obtain ⟨-, -, sampler, -, rfl⟩ := new_eq_ok made
  exact ⟨fun _ => rfl, fun _ => .inl rfl, by simp [History.start],
    by simp [History.start, History.round?]⟩

theorem advance (chronicled : world.Chronicled) (sound : world.Sound) (active : world.Active)
    (next : Grid State w h) :
    (world.advance next).Chronicled := by
  have history := sound.history_advance active next
  have begun := sound.rounds_size active.begun
  refine ⟨fun blank => absurd blank (world.advance_begun next), ?_, ?_, ?_⟩
  · intro none
    cases none
  · rw [history]
    intro r inside
    rcases Array.mem_push.1 inside with old | rfl
    · exact chronicled.regular r old
    · exact Grid.regular_flow sound.distinct _ _
  · rw [history]
    intro r first
    have zero : 0 < world.history.rounds.size := by omega
    rw [History.round?, Array.getElem?_push_lt zero, ← Array.getElem?_eq_getElem zero] at first
    exact chronicled.initial r first

theorem randomize (sound : world.Sound) (words : Random.Words) :
    (world.randomize words).2.Chronicled := by
  obtain ⟨cells, drawn, after⟩ := sound.randomize_eq words
  have possible : ∀ x y, cells.get x y ∈ State.ascending world.rules.states :=
    fun x y => State.mem_ascending.2 (sound.mem_of_sample (drawn x y))
  have distinct := State.nodup_ascending world.rules.states
  rw [after]
  refine ⟨fun _ => rfl, fun _ => .inr rfl, ?_, ?_⟩
  · intro r inside
    obtain rfl := List.mem_singleton.1 (Array.mem_def.1 inside)
    exact Grid.regular_arrivals distinct cells
  · intro r first
    have told : ((State.ascending world.rules.states).map fun s => ⟨cells.number s, 0⟩) = r :=
      Option.some.inj first
    rw [← told, Grid.entered_arrivals distinct possible, List.forall_mem_map]
    exact ⟨fun _ _ => rfl, rfl⟩

end Chronicled

end World

theorem Reachable.chronicled {world : World w h} (reachable : Reachable world) :
    world.Chronicled := by
  refine reachable.keeps (fun _ _ => .of_new) ?_
  intro before after reachable change chronicled
  cases change with
  | setStrict strict => exact { chronicled with }
  | randomize words => exact .randomize reachable.sound words
  | edit status cells seeded =>
    have begun : before.status ≠ .uninitialized := by simp [status]
    exact { chronicled with unseeded := fun none => absurd none begun }
  | advance active goes => exact chronicled.advance reachable.sound active _
  | abandon active scratch => exact { chronicled with }

namespace World

/-- The invariant of a world that operations have led to, in any order and whether they succeeded or
not. -/
structure Lifecycle (world : World w h) : Prop where
  cells : world.cells.toList.length = w * h
  scratch : world.scratch.toList.length = w * h
  ascending : world.history.states.Pairwise (· < ·)
  tracked : ∀ s, s ∈ world.history.states ↔ world.rules.isPossible s = true
  uninitialized : world.status = .uninitialized →
    world.iteration = 0 ∧ world.history.rounds = #[] ∧ world.seeded = false
  rounds : world.status ≠ .uninitialized → world.history.rounds.size = world.iteration + 1
  randomized : world.status ≠ .uninitialized → (world.status = .randomized ↔ world.iteration = 0)
  deltas : ∀ r ∈ world.history.rounds, r.length = world.history.states.length ∧
    ∀ d ∈ r, d.left ≤ 0 ∧ 0 ≤ d.entered
  initial : world.status ≠ .uninitialized → ∃ r, world.history.round? 0 = some r ∧
    (∀ d ∈ r, d.left = 0) ∧ r.entered = ((w * h : ℕ) : ℤ)

end World

namespace Reachable

variable {world : World w h}

theorem lifecycle (reachable : Reachable world) : world.Lifecycle := by
  have sound := reachable.sound
  have chronicled := reachable.chronicled
  refine ⟨by simp [Grid.toList], by simp [Grid.toList], ?_, ?_, ?_, sound.rounds_size, ?_, ?_, ?_⟩
  · rw [sound.tracked]
    exact State.pairwise_ascending _
  · intro s
    rw [sound.mem_tracked, RuleSet.isPossible, List.contains_iff_mem]
  · intro status
    have none := sound.rounds
    rw [if_pos status] at none
    exact ⟨sound.begins (.inl status), Array.eq_empty_of_size_eq_zero none,
      chronicled.unseeded status⟩
  · intro begun
    exact ⟨fun status => sound.begins (.inr status),
      fun none => (chronicled.begins none).resolve_left begun⟩
  · intro r inside
    have regular := chronicled.regular r inside
    exact ⟨regular.length, regular.signs⟩
  · intro begun
    have first : 0 < world.history.rounds.size := by rw [sound.rounds_size begun]; omega
    exact ⟨_, Array.getElem?_eq_getElem first,
      chronicled.initial _ (Array.getElem?_eq_getElem first)⟩

theorem toNat_ofInt {n : ℤ} (lower : 0 ≤ n) (upper : n < UInt64.size) :
    ((UInt64.ofInt n).toNat : ℤ) = n := by
  have size : (UInt64.size : ℤ) = 2 ^ 64 := rfl
  have small : n.toNat < UInt64.size := by omega
  rw [UInt64.ofInt, Int.emod_eq_of_lt lower (by omega), UInt64.toNat_ofNat_of_lt' small,
    Int.toNat_of_nonneg lower]

/-- The number of changes in a round is counted exactly if a word can hold the number of cells. -/
theorem changes_eq (reachable : Reachable world) (small : w * h < UInt64.size) :
    world.history.changes.map (fun n => (n.toNat : ℤ)) =
      world.history.rounds.toList.map Round.entered := by
  rw [History.changes, List.map_map]
  apply List.map_congr_left
  intro r inside
  obtain ⟨lower, upper⟩ := (reachable.chronicled.regular r (Array.mem_toList_iff.1 inside)).bounded
  have bound : r.entered < UInt64.size := lt_of_le_of_lt upper (by exact_mod_cast small)
  exact toNat_ofInt lower bound

/-- Whatever operations have led to a world, it keeps its invariant. So no operation on it records a
change in a round that is too late, and the changes that are counted in a round are never
negative. -/
theorem keeps_lifecycle (reachable : Reachable world) :
    world.Lifecycle ∧
    (∀ op past round, Operation.Records world op past round → past.rounds.size ≤ round + 1) ∧
    (∀ r ∈ world.history.rounds, 0 ≤ r.entered ∧ r.entered ≤ ((w * h : ℕ) : ℤ)) ∧
    (w * h < UInt64.size →
      world.history.changes.map (fun n => (n.toNat : ℤ)) =
        world.history.rounds.toList.map Round.entered) :=
  ⟨reachable.lifecycle, fun _ _ _ => reachable.sound.size_le_of_records,
    fun r inside => (reachable.chronicled.regular r inside).bounded, reachable.changes_eq⟩

/-- Three cells get a state when the forest is drawn, and all of them change in its first step. -/
theorem keeps_lifecycle_forest :
    Reachable (Operation.step.perform forest).2 ∧ (Operation.step.perform forest).2.Lifecycle ∧
      (Operation.step.perform forest).2.history.changes.map (fun n => (n.toNat : ℤ)) = [3, 3] := by
  have reachable : Reachable (Operation.step.perform forest).2 := .perform .step reachable_forest
  obtain ⟨lifecycle, -, -, counted⟩ := keeps_lifecycle reachable
  exact ⟨reachable, lifecycle, counted (by decide)⟩

end Reachable

end CellularAutomaton
