import CellularAutomaton.Proofs.Accounting
import CellularAutomaton.Proofs.Walk

/-!
# Convergence

The status of a world tells of its last step. A world that has converged is at a generation that
goes to itself, so that the step that is not computed any more would change nothing, and only
drawing new cells gets it out of there. A world that is running has been changed by the last step
that succeeded.
-/

namespace CellularAutomaton

variable {w h : ℕ}

/-! ## Converged worlds -/

/-- The rules lead every cell of the world to the state that it has. -/
def World.Settled (world : World w h) : Prop :=
  ∀ x y, world.rules.target world.cells x y = .ok (world.cells.get x y)

theorem Reachable.settled {world : World w h} (reachable : Reachable world)
    (status : world.status = .converged) : world.Settled := by
  refine reachable.keeps (P := fun world => world.status = .converged → world.Settled) ?_ ?_ status
  · intro r world made status
    obtain ⟨-, -, sampler, -, rfl⟩ := World.new_eq_ok made
    cases status
  · intro before after reachable change settled status
    cases change with
    | setStrict strict => exact settled status
    | randomize words =>
      obtain ⟨cells, -, drawn⟩ := reachable.sound.randomize_eq words
      rw [drawn] at status
      cases status
    | edit randomized cells seeded =>
      rw [show before.status = .converged from status] at randomized
      cases randomized
    | @advance active next goes =>
      -- The old generation went to the new one, and both are the same.
      have same : before.cells = next := World.advance_converged.1 status
      rw [same.symm] at goes ⊢
      exact fun x y => (RuleSet.allowed?_eq_some.1 (RuleSet.globalMap_eq_some.1 goes x y)).1
    | abandon active scratch => exact settled status

namespace World

/-- A world that neither steps nor edits change. -/
structure Inert (world : World w h) : Prop where
  status : world.status = .converged
  step : world.step = (.ok 0, world)
  run : ∀ max, world.run max = (.ok world.snapshot, world)
  seedEdge : ∀ edge s, world.seedEdge edge s = (.error .seedNotAllowed, world)
  setCell : ∀ c s, c.x < w → c.y < h → world.setCell c s = (.error .seedNotAllowed, world)

variable {world : World w h}

theorem checkSetup_of_converged (status : world.status = .converged) (c : Coord) (s : State) :
    world.checkSetup c s = .error .seedNotAllowed := by
  rw [checkSetup, if_pos (by simp [status])]

theorem inert_of_converged (status : world.status = .converged) : world.Inert where
  status := status
  step := by rw [step, status]
  run max := run_of_not_goesOn (goesOn_of_converged status max)
  seedEdge edge s := by rw [seedEdge, checkSetup_of_converged status]
  setCell c s column row := by
    have inside : c.x < w ∧ c.y < h := ⟨column, row⟩
    rw [setCell, locate, Grid.locate?, dif_pos inside]
    simp only [checkSetup_of_converged status]

theorem Walks.eq_of_converged {last : World w h} {ns : List ℕ} (walks : world.Walks ns last)
    (status : world.status = .converged) : last = world := by
  induction walks with
  | stay => rfl
  | step first rest ih =>
    rw [(inert_of_converged status).step] at first
    cases first
    exact ih status

/-- All that operations other than drawing do to a world that has converged is to set its flag. -/
theorem exists_perform_eq (status : world.status = .converged) {op : Operation}
    (noDrawing : ∀ words, op ≠ .randomize words) :
    ∃ strict, (op.perform world).2 = world.setStrict strict := by
  have inert := inert_of_converged status
  cases op with
  | setStrict strict => exact ⟨strict, rfl⟩
  | randomize words => exact absurd rfl (noDrawing words)
  | seedEdge edge s => exact ⟨world.strict, congrArg Prod.snd (inert.seedEdge edge s)⟩
  | setCell c s =>
    obtain ⟨e, failed⟩ | ⟨randomized, -⟩ := world.setCell_cases c s
    · exact ⟨world.strict, congrArg Prod.snd failed⟩
    · rw [status] at randomized
      cases randomized
  | step => exact ⟨world.strict, congrArg Prod.snd inert.step⟩
  | run max => exact ⟨world.strict, congrArg Prod.snd (inert.run max)⟩

theorem exists_performAll_eq (status : world.status = .converged) {ops : List Operation}
    (noDrawing : ∀ words, .randomize words ∉ ops) :
    ∃ strict, Operation.performAll world ops = world.setStrict strict := by
  induction ops generalizing world with
  | nil => exact ⟨world.strict, rfl⟩
  | cons op ops ih =>
    have first : ∀ words, op ≠ .randomize words :=
      fun words same => noDrawing words (same ▸ List.mem_cons_self)
    obtain ⟨strict, after⟩ := exists_perform_eq status first
    have status' : (world.setStrict strict).status = .converged := status
    obtain ⟨strict', last⟩ := ih status' fun words later =>
      noDrawing words (List.mem_cons_of_mem _ later)
    refine ⟨strict', ?_⟩
    rw [Operation.performAll, List.foldl_cons, after]
    exact last

/-! ## Running worlds -/

/-- The worlds in which the steps of a run succeed, one after another. -/
def stages (max : Option ℕ) : ℕ → World w h → List (World w h)
  | 0, _ => []
  | fuel + 1, world =>
    if world.goesOn max then
      match world.step with
      | (.error _, _) => []
      | (.ok _, next) => world :: stages max fuel next
    else []

/-- What every step keeps of a world and of the past worlds in which steps have succeeded, the steps
of a run keep as well. -/
theorem stages_keep {P : List (World w h) → World w h → Prop}
    (ok : ∀ past world n next, P past world → world.step = (.ok n, next) → P (past ++ [world]) next)
    (error : ∀ past world e next, P past world → world.step = (.error e, next) → P past next)
    {past : List (World w h)} (holds : P past world) (max : Option ℕ) (fuel : ℕ) :
    P (past ++ world.stages max fuel) (world.steps max fuel).2 := by
  induction fuel generalizing world past with
  | zero => rwa [stages, List.append_nil]
  | succ fuel ih =>
    rw [stages, World.steps]
    split_ifs
    · cases stepped : world.step with | mk answer next =>
      cases answer with
      | error e =>
        show P (past ++ []) next
        rw [List.append_nil]
        exact error _ _ _ _ holds stepped
      | ok n =>
        show P (past ++ world :: stages max fuel next) _
        rw [List.append_cons]
        exact ih (ok _ _ _ _ holds stepped)
    · rwa [List.append_nil]

/-- If the world is running, then the last one of the past worlds has made a step that changed some
cell, and the cells have stayed as they were after it. -/
def Moved (past : List (World w h)) (world : World w h) : Prop :=
  world.status = .running → ∃ before n, past.getLast? = some before ∧
    before.step.1 = .ok n ∧ 0 < n ∧
    before.step.2.cells = world.cells ∧ before.cells ≠ world.cells

variable {past : List (World w h)}

theorem Moved.of_not_running (status : world.status ≠ .running) : Moved past world :=
  fun running => absurd running status

theorem Moved.step_ok {next : World w h} {n : ℕ} (stepped : world.step = (.ok n, next)) :
    Moved (past ++ [world]) next := by
  intro running
  refine ⟨world, n, List.getLast?_concat, ?_⟩
  rw [stepped]
  obtain ⟨status, -, rfl⟩ | ⟨after, -, rfl, rfl⟩ := cases_of_step_ok stepped
  · rw [status] at running
    cases running
  · have differ : world.cells ≠ after := by
      intro same
      rw [advance_converged.2 same] at running
      cases running
    exact ⟨rfl, Nat.pos_of_ne_zero (mt Grid.distance_eq_zero.1 differ), rfl, differ⟩

theorem Moved.step_error {next : World w h} {e : Error} (moved : Moved past world)
    (failed : world.step = (.error e, next)) : Moved past next := by
  obtain ⟨scratch, rfl⟩ := exists_scratch_of_step_error failed
  exact moved

end World

namespace Operation

/-- The worlds in which the steps that an operation makes succeed. -/
def stages (world : World w h) : Operation → List (World w h)
  | step =>
    match world.step with
    | (.error _, _) => []
    | (.ok _, _) => [world]
  | run max => world.stages max (world.remaining max)
  | setStrict _ | randomize _ | seedEdge _ _ | setCell _ _ => []

def stagesAll (world : World w h) : List Operation → List (World w h)
  | [] => []
  | op :: ops => op.stages world ++ stagesAll (op.perform world).2 ops

variable {world : World w h} {past : List (World w h)}

theorem stages_keep {P : List (World w h) → World w h → Prop}
    (ok : ∀ past world n next, P past world → world.step = (.ok n, next) → P (past ++ [world]) next)
    (error : ∀ past world e next, P past world → world.step = (.error e, next) → P past next)
    (holds : P past world) {op : Operation} (steps : op = .step ∨ ∃ max, op = .run max) :
    P (past ++ op.stages world) (op.perform world).2 := by
  rcases steps with rfl | ⟨max, rfl⟩
  · show P _ world.step.2
    rw [stages]
    cases stepped : world.step with | mk answer next =>
    cases answer with
    | error e =>
      show P (past ++ []) next
      rw [List.append_nil]
      exact error _ _ _ _ holds stepped
    | ok n => exact ok _ _ _ _ holds stepped
  · show P _ (world.run max).2
    rw [World.run_snd]
    exact World.stages_keep ok error holds max _

theorem moved_perform (moved : World.Moved past world) (sound : world.Sound) (op : Operation) :
    World.Moved (past ++ op.stages world) (op.perform world).2 := by
  have stepping : op = .step ∨ (∃ max, op = .run max) →
      World.Moved (past ++ op.stages world) (op.perform world).2 :=
    stages_keep (fun _ _ _ _ _ => World.Moved.step_ok) (fun _ _ _ _ => World.Moved.step_error) moved
  cases op with
  | setStrict strict => rwa [stages, List.append_nil]
  | randomize words =>
    obtain ⟨cells, -, drawn⟩ := sound.randomize_eq words
    rw [perform, drawn]
    exact .of_not_running (by simp)
  | seedEdge edge s =>
    rw [stages, List.append_nil]
    obtain ⟨e, failed⟩ | ⟨status, cells, done⟩ := world.seedEdge_cases sound.wide sound.high edge s
    · rwa [perform, failed]
    · rw [perform, done]
      exact .of_not_running (by simp [status])
  | setCell c s =>
    rw [stages, List.append_nil]
    obtain ⟨e, failed⟩ | ⟨status, cells, done⟩ := world.setCell_cases c s
    · rwa [perform, failed]
    · rw [perform, done]
      exact .of_not_running (by simp [status])
  | step => exact stepping (.inl rfl)
  | run max => exact stepping (.inr ⟨max, rfl⟩)

theorem moved_performAll (moved : World.Moved past world) (sound : world.Sound)
    (ops : List Operation) :
    World.Moved (past ++ stagesAll world ops) (performAll world ops) := by
  induction ops generalizing world past with
  | nil => rwa [stagesAll, List.append_nil]
  | cons op ops ih =>
    rw [stagesAll, ← List.append_assoc]
    exact ih (moved_perform moved sound op) (sound.perform op)

end Operation

/-! ## What the status tells -/

/-- Operations lead to every reachable world from one that has not been randomized. -/
theorem Reachable.exists_performAll {world : World w h} (reachable : Reachable world) :
    ∃ (start : World w h) (ops : List Operation), Reachable start ∧ start.status = .uninitialized ∧
      Operation.performAll start ops = world := by
  induction reachable with
  | @new r world enough made =>
    obtain ⟨-, -, sampler, -, blank⟩ := World.new_eq_ok made
    exact ⟨world, [], .new enough made, congrArg World.status blank, rfl⟩
  | perform op _ ih =>
    obtain ⟨start, ops, reachable, blank, rfl⟩ := ih
    refine ⟨start, ops ++ [op], reachable, blank, ?_⟩
    rw [Operation.performAll, List.foldl_concat]
    rfl

/-- A world that has converged is at a generation that the rules lead to itself. It stays there,
with all that it tells, as long as no new cells are drawn. A world that is running, on whatever way
it has come to this, was changed by the last one of the steps that have succeeded. -/
theorem Reachable.status_tells_of_last_step {world : World w h} (reachable : Reachable world) :
    (world.status = .converged →
      (∀ x y, world.rules.target world.cells x y = .ok (world.cells.get x y)) ∧
      (∀ ops : List Operation, (∀ words, .randomize words ∉ ops) →
        ∃ strict, Operation.performAll world ops = world.setStrict strict ∧
          (world.setStrict strict).Inert) ∧
      (∀ words, (world.randomize words).2.status = .randomized) ∧
      ∀ op : Operation, (op.perform world).2.status ≠ .converged → ∃ words, op = .randomize words) ∧
    (world.status = .running →
      (∃ (start : World w h) (ops : List Operation), Reachable start ∧ start.status ≠ .running ∧
        Operation.performAll start ops = world) ∧
      ∀ (start : World w h) (ops : List Operation), Reachable start → start.status ≠ .running →
        Operation.performAll start ops = world →
        ∃ before n, (Operation.stagesAll start ops).getLast? = some before ∧
          before.step.1 = .ok n ∧ 0 < n ∧
          before.step.2.cells = world.cells ∧ before.cells ≠ world.cells) := by
  refine ⟨fun status => ⟨reachable.settled status, ?_, ?_, ?_⟩, fun running => ⟨?_, ?_⟩⟩
  · intro ops noDrawing
    obtain ⟨strict, after⟩ := World.exists_performAll_eq status noDrawing
    exact ⟨strict, after, World.inert_of_converged status⟩
  · intro words
    obtain ⟨cells, -, drawn⟩ := reachable.sound.randomize_eq words
    rw [drawn]
  · intro op left
    by_contra noDrawing
    obtain ⟨strict, after⟩ := World.exists_perform_eq status fun words same =>
      noDrawing ⟨words, same⟩
    rw [after] at left
    exact left status
  · obtain ⟨start, ops, made, blank, led⟩ := reachable.exists_performAll
    exact ⟨start, ops, made, by simp [blank], led⟩
  · rintro start ops made still rfl
    have moved : World.Moved [] start := .of_not_running still
    exact Operation.moved_performAll moved made.sound ops running

/-- The forest has burned down after three steps; before that it is running. -/
theorem Reachable.status_tells_of_last_step_forest :
    (Reachable (forest.run none).2 ∧ (forest.run none).2.status = .converged ∧
      ∃ strict, Operation.performAll
        (forest.run none).2 [.setCell ⟨0, 0⟩ 1, .setStrict true, .step] =
        (forest.run none).2.setStrict strict) ∧
    (Reachable forest.step.2 ∧ forest.step.2.status = .running ∧
      ∃ before n, (Operation.stagesAll forest [.step, .setCell ⟨0, 0⟩ 2]).getLast? = some before ∧
        before.step.1 = .ok n ∧ 0 < n) := by
  have burnt : Reachable (forest.run none).2 := .perform (.run none) reachable_forest
  have converged : (forest.run none).2.status = .converged := by decide +kernel
  have burning : Reachable forest.step.2 := .perform .step reachable_forest
  obtain ⟨-, inert, -⟩ := (status_tells_of_last_step burnt).1 converged
  obtain ⟨strict, after, -⟩ := inert [.setCell ⟨0, 0⟩ 1, .setStrict true, .step] (by simp)
  obtain ⟨-, moved⟩ := (status_tells_of_last_step burning).2 (by decide +kernel)
  obtain ⟨before, n, last, answer, some, -⟩ :=
    moved forest [.step, .setCell ⟨0, 0⟩ 2] reachable_forest (by decide) (by decide +kernel)
  exact ⟨⟨burnt, converged, strict, after⟩, burning, by decide +kernel, before, n, last,
    answer, some⟩

end CellularAutomaton
