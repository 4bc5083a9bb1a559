import CellularAutomaton.Proofs.GlobalMap

/-!
# What a step does

A step of a world that is randomized or running goes to the next generation if the global map is
defined on its cells, and fails otherwise. Neither the answer nor the world it leaves depends on
what stood in the scratch buffer before.
-/

namespace CellularAutomaton.World

variable {w h : ℕ}

/-- Whether a step of the world computes a generation. -/
def Active (world : World w h) : Prop := world.status = .randomized ∨ world.status = .running

/-- All of a world but the contents of its scratch buffer. -/
def observable (world : World w h) : World w h := world.withScratch (.replicate 0)

/-- The generation after the one that the world shows, if there is one. -/
def next? (world : World w h) : Option (Grid State w h) :=
  world.rules.globalMap world.strict world.cells

theorem Active.begun {world : World w h} (active : world.Active) :
    world.status ≠ .uninitialized := by
  rcases active with status | status <;> simp [status]

theorem Active.not_converged {world : World w h} (active : world.Active) :
    world.status ≠ .converged := by
  rcases active with status | status <;> simp [status]

theorem advance_status (world : World w h) (next : Grid State w h) :
    (world.advance next).status = .converged ∨ (world.advance next).status = .running := by
  unfold advance
  dsimp only
  split_ifs
  · exact .inl rfl
  · exact .inr rfl

theorem advance_begun (world : World w h) (next : Grid State w h) :
    (world.advance next).status ≠ .uninitialized := by
  rcases world.advance_status next with status | status <;> simp [status]

theorem advance_converged {world : World w h} {next : Grid State w h} :
    (world.advance next).status = .converged ↔ world.cells = next := by
  rw [← Grid.distance_eq_zero, advance]
  dsimp only
  split_ifs with same <;> simp [same]

theorem step_of_active {world : World w h} (active : world.Active) :
    world.step =
      match world.rules.fill world.strict world.cells (Grid.places w h) world.scratch with
      | (.error e, scratch) => (.error e, world.withScratch scratch)
      | (.ok (), scratch) => (.ok (world.cells.distance scratch), world.advance scratch) := by
  unfold step
  generalize world.rules.fill world.strict world.cells (Grid.places w h) world.scratch = result
  obtain ⟨answer, scratch⟩ := result
  rcases active with status | status <;> cases answer <;> simp only [status]

theorem step_of_next {world : World w h} (active : world.Active) {next : Grid State w h}
    (defined : world.next? = some next) :
    world.step = (.ok (world.cells.distance next), world.advance next) := by
  rw [step_of_active active, RuleSet.fill_of_globalMap defined]

theorem step_of_next_eq_none {world : World w h} (active : world.Active)
    (undefined : world.next? = none) :
    ∃ e, (∀ scratch, (world.rules.fill world.strict world.cells (Grid.places w h) scratch).1 =
      .error e) ∧
      ∃ scratch, world.step = (.error e, world.withScratch scratch) := by
  obtain ⟨e, failed⟩ := RuleSet.fill_of_globalMap_eq_none undefined world.scratch
  refine ⟨e, fun scratch => (RuleSet.fill_fst_eq _ _ _).trans failed,
    (world.rules.fill world.strict world.cells (Grid.places w h) world.scratch).2, ?_⟩
  rw [step_of_active active]
  generalize world.rules.fill world.strict world.cells (Grid.places w h) world.scratch =
    loop at failed ⊢
  obtain ⟨answer, scratch⟩ := loop
  obtain rfl : answer = .error e := failed
  rfl

/-- All that a step can do. -/
theorem step_cases (world : World w h) :
    (world.status = .uninitialized ∧ world.step = (.error .notRandomized, world)) ∨
    (world.status = .converged ∧ world.step = (.ok 0, world)) ∨
    (world.Active ∧ ∃ next, world.next? = some next ∧
      world.step = (.ok (world.cells.distance next), world.advance next)) ∨
    (world.Active ∧ world.next? = none ∧
      ∃ e scratch, world.step = (.error e, world.withScratch scratch)) := by
  have known : world.status = .uninitialized ∨ world.status = .converged ∨ world.Active := by
    cases status : world.status <;> simp [Active, status]
  rcases known with status | status | active
  · exact .inl ⟨status, by rw [step, status]⟩
  · exact .inr (.inl ⟨status, by rw [step, status]⟩)
  · cases defined : world.next? with
    | some next => exact .inr (.inr (.inl ⟨active, next, rfl, step_of_next active defined⟩))
    | none =>
      obtain ⟨e, -, failed⟩ := step_of_next_eq_none active defined
      exact .inr (.inr (.inr ⟨active, rfl, e, failed⟩))

theorem cases_of_step_ok {world next : World w h} {n : ℕ} (moved : world.step = (.ok n, next)) :
    (world.status = .converged ∧ n = 0 ∧ next = world) ∨
    ∃ after, world.next? = some after ∧ n = world.cells.distance after ∧
      next = world.advance after := by
  obtain ⟨-, same⟩ | ⟨status, same⟩ | ⟨-, after, goes, same⟩ | ⟨-, -, e, scratch, same⟩ :=
    world.step_cases
  all_goals
    rw [same] at moved
    cases moved
  · exact .inl ⟨status, rfl, rfl⟩
  · exact .inr ⟨after, goes, rfl, rfl⟩

theorem exists_scratch_of_step_error {world last : World w h} {e : Error}
    (failed : world.step = (.error e, last)) :
    ∃ scratch, last = world.withScratch scratch := by
  obtain ⟨-, same⟩ | ⟨-, same⟩ | ⟨-, next, -, same⟩ | ⟨-, -, e, scratch, same⟩ := world.step_cases
  all_goals
    rw [same] at failed
    cases failed
  · exact ⟨world.scratch, rfl⟩
  · exact ⟨scratch, rfl⟩

/-- What a step answers, and all that it leaves but the scratch buffer, does not depend on the
scratch buffer that it finds. -/
theorem step_withScratch {world : World w h} (active : world.Active) (scratch : Grid State w h) :
    (world.withScratch scratch).step.1 = world.step.1 ∧
      (world.withScratch scratch).step.2.observable = world.step.2.observable := by
  have active' : (world.withScratch scratch).Active := active
  cases defined : world.next? with
  | some next =>
    have defined' : (world.withScratch scratch).next? = some next := defined
    rw [step_of_next active defined, step_of_next active' defined']
    exact ⟨rfl, rfl⟩
  | none =>
    have undefined' : (world.withScratch scratch).next? = none := defined
    obtain ⟨e, loop, last, failed⟩ := step_of_next_eq_none active defined
    obtain ⟨e', loop', last', failed'⟩ := step_of_next_eq_none active' undefined'
    obtain rfl : e = e' := Except.error.inj ((loop scratch).symm.trans (loop' scratch))
    rw [failed, failed']
    exact ⟨rfl, rfl⟩

theorem exists_step_eq_ok_iff {world : World w h} (active : world.Active) :
    (∃ n, world.step.1 = .ok n) ↔ ∃ next, world.next? = some next := by
  cases defined : world.next? with
  | some next => simp [step_of_next active defined]
  | none =>
    obtain ⟨e, -, scratch, failed⟩ := step_of_next_eq_none active defined
    simp [failed]

theorem exists_next_of_step_eq_ok {world : World w h} (active : world.Active) {n : ℕ}
    (answer : world.step.1 = .ok n) :
    ∃ next, world.next? = some next ∧ n = world.cells.distance next ∧
      world.step.2 = world.advance next := by
  obtain ⟨next, defined⟩ := (exists_step_eq_ok_iff active).1 ⟨n, answer⟩
  rw [step_of_next active defined] at answer ⊢
  exact ⟨next, defined, (Except.ok.inj answer).symm, rfl⟩

/-- A step of any world that is randomized or running, whatever came before and whatever its scratch
buffer holds, applies the rules to all cells at once. -/
theorem step_refines_target (world : World w h) (active : world.Active) :
    ((∃ n, world.step.1 = .ok n) ↔
      ∀ x y, ∃ s, world.rules.target world.cells x y = .ok s ∧
        (world.strict = true → s ∈ world.rules.states)) ∧
    (∀ n, world.step.1 = .ok n →
      (∀ x y, world.rules.target world.cells x y = .ok (world.step.2.cells.get x y)) ∧
      n = (Finset.univ.filter fun p : Fin w × Fin h =>
        world.cells.get p.1 p.2 ≠ world.step.2.cells.get p.1 p.2).card ∧
      world.step.2.iteration = world.iteration + 1 ∧
      world.step.2.status = if n = 0 then .converged else .running) ∧
    ∀ scratch, (world.withScratch scratch).step.1 = world.step.1 ∧
      (world.withScratch scratch).step.2.observable = world.step.2.observable := by
  refine ⟨?_, ?_, step_withScratch active⟩
  · rw [exists_step_eq_ok_iff active]
    constructor
    · rintro ⟨next, defined⟩ x y
      exact ⟨next.get x y, RuleSet.allowed?_eq_some.1 (RuleSet.globalMap_eq_some.1 defined x y)⟩
    · intro each
      choose next goes using each
      refine ⟨.ofFn next, RuleSet.globalMap_eq_some.2 ?_⟩
      intro x y
      rw [Grid.get_ofFn]
      exact RuleSet.allowed?_eq_some.2 (goes x y)
  · intro n answer
    obtain ⟨next, defined, rfl, after⟩ := exists_next_of_step_eq_ok active answer
    rw [after]
    refine ⟨?_, Grid.distance_eq_card _ _, rfl, rfl⟩
    intro x y
    exact (RuleSet.allowed?_eq_some.1 (RuleSet.globalMap_eq_some.1 defined x y)).1

def fireLine : World 3 1 where
  rules := ⟨[0, 1, 2], [0, 0.05, 0.95], [⟨1, 0⟩], [⟨.atLeast, 1, 1, some 2, 1⟩], .var⟩
  sampler := ⟨[0, 0.05, 1]⟩
  cells := ⟨#v[2, 1, 2]⟩
  scratch := ⟨#v[7, 0, 1]⟩
  history := ⟨[0, 1, 2], #[[⟨0, 0⟩, ⟨1, 0⟩, ⟨2, 0⟩]]⟩
  iteration := 0
  status := .randomized
  seeded := false
  strict := true

/-- The fire burns out in the middle and spreads to both sides. -/
theorem step_refines_target_fireLine :
    fireLine.Active ∧ fireLine.step.1 = .ok 3 ∧ fireLine.step.2.cells = ⟨#v[1, 0, 1]⟩ ∧
      ∀ x y, fireLine.rules.target fireLine.cells x y = .ok (fireLine.step.2.cells.get x y) := by
  have active : fireLine.Active := .inl rfl
  exact ⟨active, rfl, rfl, ((step_refines_target fireLine active).2.1 3 rfl).1⟩

end CellularAutomaton.World
