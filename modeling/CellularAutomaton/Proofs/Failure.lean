import CellularAutomaton.Proofs.Observation
import CellularAutomaton.Proofs.Walk

/-!
# Failed operations

An edit or a step that fails leaves all that can be seen of a world as it was. A step goes through
the cells row by row and fails with the error of the first cell that has no next state; what it has
written until then stays in the scratch buffer. A run that fails leaves the world where its last
successful step has led.
-/

namespace CellularAutomaton

variable {w h : ℕ}

/-! ## Row by row -/

namespace Grid

theorem pairwise_places (w h : ℕ) :
    (places w h).Pairwise fun p q => place p.1 p.2 < place q.1 q.2 := by
  have ascending := List.pairwise_lt_finRange (w * h)
  rwa [← map_place_places, List.pairwise_map] at ascending

theorem place_lt {x x' : Fin w} {y y' : Fin h} (before : y < y' ∨ y = y' ∧ x < x') :
    place x y < place x' y' := by
  rw [Fin.lt_def]
  show y.val * w + x.val < y'.val * w + x'.val
  rcases before with row | ⟨rfl, column⟩
  · calc
      _ < y.val * w + w := Nat.add_lt_add_left x.isLt _
      _ = (y.val + 1) * w := (Nat.succ_mul _ _).symm
      _ ≤ y'.val * w := Nat.mul_le_mul_right w row
      _ ≤ _ := Nat.le_add_right _ _
  · exact Nat.add_lt_add_left column _

/-- The places before a given one are those in rows above it and those to the left of it. -/
theorem mem_earlier {earlier later : List (Fin w × Fin h)} {p q : Fin w × Fin h}
    (order : places w h = earlier ++ p :: later) (before : q.2 < p.2 ∨ q.2 = p.2 ∧ q.1 < p.1) :
    q ∈ earlier := by
  have sorted := pairwise_places w h
  rw [order, List.pairwise_append, List.pairwise_cons] at sorted
  have somewhere : q ∈ earlier ++ p :: later := order ▸ mem_places q
  have lt : place q.1 q.2 < place p.1 p.2 := place_lt before
  rcases List.mem_append.1 somewhere with inside | after
  · exact inside
  · rcases List.mem_cons.1 after with rfl | later
    · exact absurd lt (lt_irrefl _)
    · exact absurd (sorted.2.1.1 q later) lt.asymm

end Grid

namespace RuleSet

variable {r : RuleSet} {strict : Bool} {g : Grid State w h} {e : Error}

theorem nextCell_eq_error {x : Fin w} {y : Fin h} :
    r.nextCell strict g x y = .error e ↔
      (∃ cause, r.target g x y = .error cause ∧ e = .evaluation cause) ∨
      ∃ s, r.target g x y = .ok s ∧ strict = true ∧ s ∉ r.states ∧ e = .invalidState ⟨x, y⟩ s := by
  rw [nextCell, Grid.window_eq_block, target]
  cases r.nextState (g.get x y) (g.block x y) with
  | error cause =>
    constructor
    · rintro ⟨⟩
      exact .inl ⟨cause, rfl, rfl⟩
    · rintro (⟨cause, ⟨⟩, rfl⟩ | ⟨s, ⟨⟩, -⟩)
      rfl
  | ok s =>
    dsimp only
    split_ifs with bad
    · constructor
      · rintro ⟨⟩
        exact .inr ⟨s, rfl, by simpa [isPossible] using bad⟩
      · rintro (⟨cause, ⟨⟩, -⟩ | ⟨s, ⟨⟩, -, -, rfl⟩)
        rfl
    · constructor
      · rintro ⟨⟩
      · rintro (⟨cause, ⟨⟩, -⟩ | ⟨s, ⟨⟩, on, impossible, -⟩)
        exact absurd (by simp [isPossible, on, impossible]) bad

/-- The loop over the cells fails with the error of the first cell that has one. -/
theorem exists_of_fill_error {places : List (Fin w × Fin h)} {scratch : Grid State w h}
    (failed : (r.fill strict g places scratch).1 = .error e) :
    ∃ earlier p later, places = earlier ++ p :: later ∧
      (∀ q ∈ earlier, ∃ s, r.nextCell strict g q.1 q.2 = .ok s) ∧
      r.nextCell strict g p.1 p.2 = .error e := by
  induction places generalizing scratch with
  | nil => cases failed
  | cons p rest ih =>
    unfold fill at failed
    split at failed
    · next cause none =>
      cases failed
      exact ⟨[], p, rest, rfl, by simp, none⟩
    · next s found =>
      obtain ⟨earlier, q, later, rfl, passed, fails⟩ := ih failed
      refine ⟨p :: earlier, q, later, rfl, ?_, fails⟩
      rw [List.forall_mem_cons]
      exact ⟨⟨s, found⟩, passed⟩

end RuleSet

/-! ## Failing steps -/

namespace World

variable {world : World w h} {e : Error}

/-- In the order of the rows, the first cell that has no next state is the one at `x` and `y`, and
`e` says why. -/
structure FaultAt (world : World w h) (x : Fin w) (y : Fin h) (e : Error) : Prop where
  earlier : ∀ x' y', y' < y ∨ y' = y ∧ x' < x →
    ∃ s, world.rules.target world.cells x' y' = .ok s ∧
      (world.strict = true → s ∈ world.rules.states)
  cause : (∃ cause, world.rules.target world.cells x y = .error cause ∧ e = .evaluation cause) ∨
    ∃ s, world.rules.target world.cells x y = .ok s ∧ world.strict = true ∧ s ∉ world.rules.states ∧
      e = .invalidState ⟨x, y⟩ s

theorem exists_faultAt (active : world.Active) (failed : world.step.1 = .error e) :
    ∃ x y, world.FaultAt x y e := by
  rw [step_of_active active] at failed
  have stopped : (world.rules.fill world.strict world.cells (Grid.places w h) world.scratch).1 =
      .error e := by
    generalize world.rules.fill world.strict world.cells (Grid.places w h) world.scratch =
      loop at failed ⊢
    obtain ⟨answer, scratch⟩ := loop
    cases answer with
    | error cause => exact congrArg Except.error (Except.error.inj failed)
    | ok => cases failed
  obtain ⟨earlier, p, later, order, passed, fails⟩ := RuleSet.exists_of_fill_error stopped
  refine ⟨p.1, p.2, ?_, RuleSet.nextCell_eq_error.1 fails⟩
  intro x y before
  obtain ⟨s, found⟩ := passed (x, y) (Grid.mem_earlier order before)
  exact ⟨s, RuleSet.allowed?_eq_some.1 (RuleSet.nextCell_eq_ok.1 found)⟩

theorem observable_of_step_error (failed : world.step.1 = .error e) :
    world.step.2.observable = world.observable := by
  have stepped : world.step = (.error e, world.step.2) := Prod.ext failed rfl
  obtain ⟨scratch, same⟩ := exists_scratch_of_step_error stepped
  rw [same]
  rfl

/-- Operations that are neither drawings nor runs change nothing that can be seen when they fail. -/
theorem Sound.observable_of_error (sound : world.Sound) {op : Operation}
    (noDrawing : ∀ words, op ≠ .randomize words) (noRun : ∀ max, op ≠ .run max) {o : Obstacle}
    (failed : (op.perform world).1 = .error o) :
    (op.perform world).2.observable = world.observable := by
  cases op with
  | setStrict strict => cases failed
  | randomize words => exact absurd rfl (noDrawing words)
  | seedEdge edge s =>
    obtain ⟨cause, same⟩ | ⟨-, cells, done⟩ := world.seedEdge_cases sound.wide sound.high edge s
    · rw [Operation.perform, same]
      rfl
    · rw [Operation.perform, done] at failed
      cases failed
  | setCell c s =>
    obtain ⟨cause, same⟩ | ⟨-, cells, done⟩ := world.setCell_cases c s
    · rw [Operation.perform, same]
      rfl
    · rw [Operation.perform, done] at failed
      cases failed
  | step =>
    obtain ⟨e, failed, -⟩ := Answer.orFailure_eq_error.1 failed
    exact observable_of_step_error failed
  | run max => exact absurd rfl (noRun max)

end World

/-- An edit or a step that fails changes nothing that can be seen, so whatever is done next is
answered as if it had not been tried. A step fails at the first cell that has no next state, and a
run after its last successful step. -/
theorem Reachable.failure_changes_nothing {world : World w h} (reachable : Reachable world) :
    (∀ op : Operation, (∀ words, op ≠ .randomize words) → (∀ max, op ≠ .run max) →
      ∀ o, (op.perform world).1 = .error o →
        (op.perform world).2.observable = world.observable ∧
        (op.perform world).2.answers = world.answers ∧
        ∀ ops, Operation.observations (op.perform world).2 ops = Operation.observations world ops) ∧
    (world.Active → ∀ e, world.step.1 = .error e → ∃ x y, world.FaultAt x y e) ∧
    ∀ max e, (world.run max).1 = .error (.failure e) → ∃ ns last, world.Walks ns last ∧
      last.step.1 = .error e ∧ (world.run max).2.observable = last.observable := by
  refine ⟨?_, fun active e => World.exists_faultAt active, ?_⟩
  · intro op noDrawing noRun o failed
    have same := reachable.sound.observable_of_error noDrawing noRun failed
    exact ⟨same, World.answers_congr same, Operation.observations_congr same⟩
  · intro max e failed
    obtain ⟨ns, last, walks, done | ⟨cause, failing, ended⟩⟩ := world.run_walks max
    · rw [done] at failed
      exact absurd failed (World.conclude_ne_failure _)
    · rw [ended] at failed ⊢
      cases failed
      exact ⟨ns, last, walks, failing, World.observable_of_step_error failing⟩

def counting : RuleSet where
  states := [0, 1]
  probabilities := [0.5, 0.5]
  simpleRules := []
  neighborRules := []
  defaultRule := .binary .add .var (.literal 1)

def emptyPair : World 2 1 where
  rules := counting
  sampler := ⟨[0.5, 1]⟩
  cells := .replicate 0
  scratch := .replicate 0
  history := ⟨[0, 1], #[]⟩
  iteration := 0
  status := .uninitialized
  seeded := false
  strict := false

def brink : World 2 1 :=
  { emptyPair with
    cells := ⟨#v[0, 1]⟩
    history := ⟨[0, 1], #[[⟨1, 0⟩, ⟨1, 0⟩]]⟩
    status := .randomized
    strict := true }

theorem reachable_brink : Reachable brink := by
  have made : World.new 2 1 counting = .ok emptyPair := by decide +kernel
  have drawn : ((Operation.setStrict true).perform
      ((Operation.randomize fun i => if i = 0 then 0 else 0xF000000000000000).perform
        emptyPair).2).2 = brink := by
    decide +kernel
  rw [← drawn]
  exact .perform _ (.perform _ (.new (by decide) made))

/-- The step has written the next state of the first cell when it fails at the second one. -/
theorem Reachable.failure_changes_nothing_brink :
    Reachable brink ∧ (Operation.step.perform brink).1 =
      .error (.failure (.invalidState ⟨1, 0⟩ 2)) ∧
      brink.step.2.scratch ≠ brink.scratch ∧
      (Operation.step.perform brink).2.observable = brink.observable ∧
      (brink.Active ∧ ∃ x y, brink.FaultAt x y (.invalidState ⟨1, 0⟩ 2)) ∧
      (brink.run none).1 = .error (.failure (.invalidState ⟨1, 0⟩ 2)) ∧
      ∃ ns last, brink.Walks ns last ∧ (brink.run none).2.observable = last.observable := by
  have failed : (Operation.step.perform brink).1 = .error (.failure (.invalidState ⟨1, 0⟩ 2)) := rfl
  have ended : (brink.run none).1 = .error (.failure (.invalidState ⟨1, 0⟩ 2)) := rfl
  obtain ⟨unchanged, fault, run⟩ := failure_changes_nothing reachable_brink
  obtain ⟨ns, last, walks, -, same⟩ := run none _ ended
  exact ⟨reachable_brink, failed, by decide, (unchanged .step (by simp) (by simp) _ failed).1,
    ⟨.inl rfl, fault (.inl rfl) _ rfl⟩, ended, ns, last, walks, same⟩

end CellularAutomaton
