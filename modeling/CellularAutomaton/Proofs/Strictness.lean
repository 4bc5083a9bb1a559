import CellularAutomaton.Proofs.Convergence
import CellularAutomaton.Proofs.Failure
import CellularAutomaton.Proofs.Lifecycle

/-!
# Strict worlds

In a strict world no cell ever gets to a state that is not possible, neither by drawing nor by hand
nor by the rules. So each cell that changes in a step leaves one possible state and enters another
one, and the history tells exactly what the steps have answered. A strict step is the same as one
that is not strict, except that it fails when that one leads to a state that is not possible.
-/

namespace CellularAutomaton

variable {w h : ℕ}

/-! ## Steps since the last drawing -/

/-- How many cells change in the step that a world makes to a new generation. -/
def World.changed? (world : World w h) : Option ℕ :=
  if world.status = .converged then none else world.step.1.toOption

namespace Operation

/-- The worlds in which steps have succeeded since the cells were drawn, after one more
operation. -/
def stagesAfter (past : List (World w h)) (world : World w h) : Operation → List (World w h)
  | randomize _ => []
  | op => past ++ op.stages world

/-- The worlds in which steps have succeeded since the cells were drawn, after several more
operations. -/
def stagesSince (past : List (World w h)) (world : World w h) : List Operation → List (World w h)
  | [] => past
  | op :: ops => stagesSince (op.stagesAfter past world) (op.perform world).2 ops

end Operation

/-- The numbers of cells that have changed in the steps from one generation to the next one. -/
def World.numbers (past : List (World w h)) : List ℕ := past.filterMap changed?

namespace World

variable {past : List (World w h)} {world next : World w h} {n : ℕ} {e : Error}

theorem numbers_concat_of_converged (status : world.status = .converged) :
    numbers (past ++ [world]) = numbers past := by
  simp [numbers, changed?, status]

theorem numbers_concat (moving : world.status ≠ .converged) (answer : world.step.1 = .ok n) :
    numbers (past ++ [world]) = numbers past ++ [n] := by
  simp [numbers, changed?, moving, answer, Except.toOption]

/-! ## Cells that stay among the possible states -/

/-- A strict world in which so many cells have changed in the steps since its cells were drawn. -/
structure Confined (ns : List ℕ) (world : World w h) : Prop where
  strict : world.strict = true
  possible : ∀ x y, world.cells.get x y ∈ world.rules.states
  totals : world.history.totals = ⟨(w * h : ℕ), 0⟩ :: ns.map fun n : ℕ => ⟨n, -n⟩
  moving : world.status ≠ .converged → ∀ n ∈ ns, 0 < n
  converged : world.status = .converged → ∃ ms : List ℕ, ns = ms ++ [0] ∧ ∀ n ∈ ms, 0 < n

theorem totals_push (past : History) (r : Round) :
    History.totals ⟨past.states, past.rounds.push r⟩ = past.totals ++ [⟨r.entered, r.left⟩] := by
  simp [History.totals]

namespace Confined

variable {ns : List ℕ}

theorem of_randomize (sound : world.Sound) (strict : world.strict = true) (words : Random.Words) :
    (world.randomize words).2.Confined [] := by
  obtain ⟨cells, drawn, after⟩ := sound.randomize_eq words
  have possible : ∀ x y, cells.get x y ∈ world.rules.states :=
    fun x y => sound.mem_of_sample (drawn x y)
  have distinct := State.nodup_ascending world.rules.states
  have entered := Grid.entered_arrivals distinct fun x y => State.mem_ascending.2 (possible x y)
  rw [after]
  refine ⟨strict, possible, ?_, by simp, by simp⟩
  simp [History.totals, entered, Round.left_map]

theorem advance (confined : world.Confined ns) (sound : world.Sound) (active : world.Active)
    {after : Grid State w h} (goes : world.next? = some after) :
    (world.advance after).Confined (ns ++ [world.cells.distance after]) := by
  have possible : ∀ x y, after.get x y ∈ world.rules.states :=
    fun x y => (RuleSet.allowed?_eq_some.1 (RuleSet.globalMap_eq_some.1 goes x y)).2 confined.strict
  have tracked : ∀ x y, after.get x y ∈ world.history.states :=
    fun x y => sound.mem_tracked.2 (possible x y)
  have tracked' : ∀ x y, world.cells.get x y ∈ world.history.states :=
    fun x y => sound.mem_tracked.2 (confined.possible x y)
  have round : (world.advance after).history.totals =
      world.history.totals ++ [⟨world.cells.distance after,
        -(world.cells.distance after : ℤ)⟩] := by
    rw [sound.history_advance active, totals_push, Round.entered_map, Round.left_map,
      Grid.sum_entered sound.distinct tracked, Grid.sum_left sound.distinct tracked' tracked]
  have earlier := confined.moving active.not_converged
  refine ⟨confined.strict, possible, ?_, ?_, ?_⟩
  · rw [round, confined.totals, List.map_append, List.cons_append]
    rfl
  · intro moving m inside
    rcases List.mem_append.1 inside with old | new
    · exact earlier m old
    · obtain rfl := List.mem_singleton.1 new
      exact Nat.pos_of_ne_zero (mt Grid.distance_eq_zero.1 (mt advance_converged.2 moving))
  · intro status
    have still : world.cells.distance after = 0 :=
      Grid.distance_eq_zero.2 (advance_converged.1 status)
    exact ⟨ns, by rw [still], earlier⟩

theorem step_ok (confined : world.Confined (numbers past)) (sound : world.Sound)
    (stepped : world.step = (.ok n, next)) : next.Confined (numbers (past ++ [world])) := by
  obtain ⟨-, failed⟩ | ⟨status, same⟩ | ⟨active, after, goes, moved⟩ | ⟨-, -, e, scratch, failed⟩ :=
    world.step_cases
  · rw [failed] at stepped
    cases stepped
  · rw [same] at stepped
    cases stepped
    rwa [numbers_concat_of_converged status]
  · rw [numbers_concat active.not_converged (congrArg Prod.fst moved)]
    rw [moved] at stepped
    cases stepped
    exact confined.advance sound active goes
  · rw [failed] at stepped
    cases stepped

theorem step_error (confined : world.Confined (numbers past))
    (failed : world.step = (.error e, next)) :
    next.Confined (numbers past) := by
  obtain ⟨scratch, rfl⟩ := exists_scratch_of_step_error failed
  exact { confined with }

theorem edit (confined : world.Confined ns) {s : State}
    (allowed : world.strict = true → s ∈ world.rules.states) {cells : Grid State w h}
    {seeded : Bool} (writes : ∀ x y, cells.get x y = s ∨ cells.get x y = world.cells.get x y) :
    Confined ns { world with cells, seeded } := by
  refine { confined with possible := ?_ }
  intro x y
  show cells.get x y ∈ world.rules.states
  rcases writes x y with written | kept
  · rw [written]
    exact allowed confined.strict
  · rw [kept]
    exact confined.possible x y

theorem perform (confined : world.Confined (numbers past)) (sound : world.Sound) {op : Operation}
    (stays : op ≠ .setStrict false) :
    (op.perform world).2.Confined (numbers (op.stagesAfter past world)) := by
  have stepping : op = .step ∨ (∃ max, op = .run max) →
      (op.perform world).2.Sound ∧
      (op.perform world).2.Confined (numbers (past ++ op.stages world)) := by
    refine Operation.stages_keep
      (P := fun past world => world.Sound ∧ world.Confined (numbers past)) ?_ ?_
      ⟨sound, confined⟩
    · rintro past world n next ⟨sound, confined⟩ stepped
      have sound' := sound.step
      rw [stepped] at sound'
      exact ⟨sound', confined.step_ok sound stepped⟩
    · rintro past world e next ⟨sound, confined⟩ failed
      have sound' := sound.step
      rw [failed] at sound'
      exact ⟨sound', confined.step_error failed⟩
  cases op with
  | setStrict strict =>
    cases strict with
    | false => exact absurd rfl stays
    | true =>
      show Confined (numbers (past ++ [])) _
      rw [List.append_nil]
      exact { confined with strict := rfl }
  | randomize words => exact of_randomize sound confined.strict words
  | seedEdge edge s =>
    show Confined (numbers (past ++ [])) _
    rw [List.append_nil]
    obtain ⟨e, failed⟩ | ⟨-, allowed, cells, writes, done⟩ :=
      world.seedEdge_writes sound.wide sound.high edge s
    · rwa [Operation.perform, failed]
    · rw [Operation.perform, done]
      refine confined.edit allowed fun x y => ?_
      rw [writes]
      exact ite_eq_or_eq _ _ _
  | setCell c s =>
    show Confined (numbers (past ++ [])) _
    rw [List.append_nil]
    obtain ⟨e, failed⟩ | ⟨-, allowed, x, y, -, done⟩ := world.setCell_writes c s
    · rwa [Operation.perform, failed]
    · rw [Operation.perform, done]
      refine confined.edit allowed fun x' y' => ?_
      rw [Grid.get_set]
      exact ite_eq_or_eq _ _ _
  | step => exact (stepping (.inl rfl)).2
  | run max => exact (stepping (.inr ⟨max, rfl⟩)).2

theorem performAll (confined : world.Confined (numbers past)) (sound : world.Sound)
    {ops : List Operation} (stays : .setStrict false ∉ ops) :
    (Operation.performAll world ops).Confined (numbers (Operation.stagesSince past world ops)) := by
  induction ops generalizing world past with
  | nil => exact confined
  | cons op ops ih =>
    rw [List.mem_cons, not_or] at stays
    exact ih (confined.perform sound (Ne.symm stays.1)) (sound.perform op) stays.2

/-- Only in the last one of the steps no cell may have changed, and then the world has converged. -/
theorem pos_of_mem_dropLast (confined : world.Confined ns) : ∀ n ∈ ns.dropLast, 0 < n := by
  intro n inside
  by_cases status : world.status = .converged
  · obtain ⟨ms, rfl, earlier⟩ := confined.converged status
    rw [List.dropLast_concat] at inside
    exact earlier n inside
  · exact confined.moving status n (List.dropLast_subset _ inside)

theorem getLast?_eq_zero_iff (confined : world.Confined ns) :
    ns.getLast? = some 0 ↔ world.status = .converged := by
  constructor
  · intro last
    by_contra moving
    exact absurd (confined.moving moving 0 (List.mem_of_getLast? last)) (lt_irrefl 0)
  · intro status
    obtain ⟨ms, rfl, -⟩ := confined.converged status
    exact List.getLast?_concat

/-- The numbers of changes that the history tells are those that the steps have answered. -/
theorem changes (confined : world.Confined ns) (reachable : Reachable world)
    (small : w * h < UInt64.size) :
    world.history.changes.map UInt64.toNat = w * h :: ns := by
  have told := reachable.changes_eq small
  have entered : world.history.rounds.toList.map Round.entered =
      world.history.totals.map Delta.entered := by
    simp [History.totals]
  apply List.map_injective_iff.2 (Nat.cast_injective (R := ℤ))
  rw [List.map_map]
  refine told.trans ?_
  rw [entered, confined.totals]
  simp

end Confined

/-! ## The strict twin of a world -/

variable {after : Grid State w h}

theorem next?_setStrict_true : (world.setStrict true).next? = some after ↔
    (world.setStrict false).next? = some after ∧ ∀ x y, after.get x y ∈ world.rules.states :=
  RuleSet.globalMap_true_eq_some

/-- A strict step is one that is not strict and stays among the possible states. -/
theorem step_setStrict (active : world.Active) :
    ((∃ n, (world.setStrict true).step.1 = .ok n) ↔ ∃ n, (world.setStrict false).step.1 = .ok n ∧
      ∀ x y, (world.setStrict false).step.2.cells.get x y ∈ world.rules.states) ∧
    ∀ n, (world.setStrict true).step.1 = .ok n → (world.setStrict false).step.1 = .ok n ∧
      (world.setStrict false).step.2 = (world.setStrict true).step.2.setStrict false := by
  have active' : ∀ strict, (world.setStrict strict).Active := fun _ => active
  constructor
  · constructor
    · rintro ⟨n, answer⟩
      obtain ⟨after, goes, -⟩ := exists_next_of_step_eq_ok (active' true) answer
      obtain ⟨goes', possible⟩ := next?_setStrict_true.1 goes
      rw [step_of_next (active' false) goes']
      exact ⟨_, rfl, possible⟩
    · rintro ⟨n, answer, possible⟩
      obtain ⟨after, goes, -, moved⟩ := exists_next_of_step_eq_ok (active' false) answer
      rw [moved] at possible
      exact ⟨_, congrArg Prod.fst (step_of_next (active' true)
        (next?_setStrict_true.2 ⟨goes, possible⟩))⟩
  · intro n answer
    obtain ⟨after, goes, rfl, moved⟩ := exists_next_of_step_eq_ok (active' true) answer
    rw [step_of_next (active' false) (next?_setStrict_true.1 goes).1, moved]
    exact ⟨rfl, rfl⟩

end World

/-- As long as a world is strict from a drawing on, all of its cells are in possible states. The
rounds of its history tell as many cells that have entered and left a state as its steps have
answered; these are not zero, but for the last one of a world that has converged. And a strict step
does what the step does that is not strict, or fails if this leads to other states. -/
theorem Reachable.strict_filters_steps {world : World w h} (reachable : Reachable world) :
    (world.strict = true → ∀ words (ops : List Operation), .setStrict false ∉ ops →
      let last := Operation.performAll (world.randomize words).2 ops
      let ns := World.numbers (Operation.stagesSince [] (world.randomize words).2 ops)
      (∀ x y, last.cells.get x y ∈ last.rules.states) ∧
      last.history.totals = ⟨(w * h : ℕ), 0⟩ :: ns.map (fun n : ℕ => ⟨n, -n⟩) ∧
      (w * h < UInt64.size → last.history.changes.map UInt64.toNat = w * h :: ns) ∧
      (∀ n ∈ ns.dropLast, 0 < n) ∧ (ns.getLast? = some 0 ↔ last.status = .converged)) ∧
    (world.Active →
      ((∃ n, (world.setStrict true).step.1 = .ok n) ↔ ∃ n, (world.setStrict false).step.1 = .ok n ∧
        ∀ x y, (world.setStrict false).step.2.cells.get x y ∈ world.rules.states) ∧
      ∀ n, (world.setStrict true).step.1 = .ok n → (world.setStrict false).step.1 = .ok n ∧
        (world.setStrict false).step.2 = (world.setStrict true).step.2.setStrict false) := by
  refine ⟨?_, World.step_setStrict⟩
  intro strict words ops stays last ns
  have drawn : Reachable (world.randomize words).2 := .perform (.randomize words) reachable
  have start : (world.randomize words).2.Confined (World.numbers ([] : List (World w h))) :=
    .of_randomize reachable.sound strict words
  have confined : last.Confined ns := start.performAll drawn.sound stays
  exact ⟨confined.possible, confined.totals,
    confined.changes (Operation.reachable_performAll drawn ops), confined.pos_of_mem_dropLast,
      confined.getLast?_eq_zero_iff⟩

/-- What is done in a strict forest after three trees have been drawn: the second one is set on
fire, nothing else can be planted there, and the fire burns out. -/
def strictFire : List Operation := [.setCell ⟨1, 0⟩ 1, .setCell ⟨0, 0⟩ 7, .step, .run none, .step]

/-- The forest burns down in three steps that are counted. On the brink the strict step fails, as
the one that is not strict leads to a state that is not possible. -/
theorem Reachable.strict_filters_steps_fire :
    let drawn := ((forest.setStrict true).randomize fun _ => 0xF000000000000000).2
    (Reachable (forest.setStrict true) ∧ (forest.setStrict true).strict = true ∧
      .setStrict false ∉ strictFire ∧
      (Operation.performAll drawn strictFire).status = .converged ∧
      World.numbers (Operation.stagesSince [] drawn strictFire) = [3, 2, 0] ∧
      (Operation.performAll drawn strictFire).history.totals = [⟨3, 0⟩, ⟨3, -3⟩, ⟨2, -2⟩, ⟨0, 0⟩] ∧
      (Operation.performAll drawn strictFire).history.changes.map UInt64.toNat = [3, 3, 2, 0]) ∧
    Reachable brink ∧ brink.Active ∧ (brink.setStrict false).step.1 = .ok 2 ∧
      ¬∃ n, (brink.setStrict true).step.1 = .ok n := by
  intro drawn
  have reachable : Reachable (forest.setStrict true) := .perform (.setStrict true) reachable_forest
  have stays : .setStrict false ∉ strictFire := by simp [strictFire]
  obtain ⟨-, totals, changes, -, natural⟩ :=
    (strict_filters_steps reachable).1 rfl (fun _ => 0xF000000000000000) strictFire stays
  have numbers : World.numbers (Operation.stagesSince [] drawn strictFire) = [3, 2, 0] := by
    decide +kernel
  rw [numbers] at totals changes natural
  have twin := ((strict_filters_steps reachable_brink).2 (.inl rfl)).1
  refine ⟨⟨reachable, rfl, stays, natural.1 rfl, numbers, totals, changes (by decide)⟩,
    reachable_brink, .inl rfl, by decide +kernel, ?_⟩
  rw [twin]
  rintro ⟨n, -, possible⟩
  exact absurd (possible 1 0) (by decide +kernel)

end CellularAutomaton
