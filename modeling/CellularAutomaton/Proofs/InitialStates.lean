import CellularAutomaton.Proofs.Distribution
import CellularAutomaton.Proofs.Failure
import CellularAutomaton.Proofs.Restart

/-!
# Initial states

Rules that have been accepted can be drawn from at any time: a world that has been made under them
finds a state for every draw, and worlds can be made under them if the tolerance is smaller than
one. The states of probability zero are not among those that are drawn, but for the first of all
states, which is what a draw of zero gives.
-/

namespace CellularAutomaton

variable {w h : ℕ}

/-! ## No other operation looks into the table -/

namespace World

variable {world : World w h}

theorem checkSetup_ne_sampleOutOfRange (c : Coord) (s : State) (draw : Float) :
    world.checkSetup c s ≠ .error (.sampleOutOfRange draw) := by
  unfold checkSetup
  split_ifs <;> simp

theorem Sound.seedEdge_ne_sampleOutOfRange (sound : world.Sound) (edge : Edge) (s : State)
    (draw : Float) :
    (world.seedEdge edge s).1 ≠ .error (.sampleOutOfRange draw) := by
  have all := world.setCells_eq_ok (fun c => mem_edge_places sound.wide sound.high edge) s
  unfold seedEdge
  split
  · next e refused =>
    rintro ⟨⟩
    exact checkSetup_ne_sampleOutOfRange _ _ _ refused
  · split_ifs
    · simp
    · split
      · next e last failed =>
        rw [failed] at all
        cases all
      · simp

theorem setCell_ne_sampleOutOfRange (c : Coord) (s : State) (draw : Float) :
    (world.setCell c s).1 ≠ .error (.sampleOutOfRange draw) := by
  unfold setCell locate
  split
  · next e outside =>
    split at outside
    · cases outside
    · cases outside
      simp
  · split
    · next e refused =>
      rintro ⟨⟩
      exact checkSetup_ne_sampleOutOfRange _ _ _ refused
    · simp

theorem step_ne_sampleOutOfRange (draw : Float) :
    world.step.1 ≠ .error (.sampleOutOfRange draw) := by
  intro failed
  obtain ⟨-, same⟩ | ⟨-, same⟩ | ⟨-, next, -, same⟩ | ⟨active, -⟩ := world.step_cases
  on_goal 4 =>
    obtain ⟨x, y, fault⟩ := exists_faultAt active failed
    obtain ⟨cause, -, same⟩ | ⟨s, -, -, -, same⟩ := fault.cause <;> cases same
  all_goals
    rw [same] at failed
    cases failed

theorem steps_ne_sampleOutOfRange (max : Option ℕ) (fuel : ℕ) (draw : Float) :
    (world.steps max fuel).1 ≠ .error (.sampleOutOfRange draw) := by
  induction fuel generalizing world with
  | zero => simp [steps]
  | succ fuel ih =>
    rw [steps]
    split_ifs
    · split
      · next e last failed =>
        rintro ⟨⟩
        exact step_ne_sampleOutOfRange draw (congrArg Prod.fst failed)
      · exact ih
    · simp

theorem Sound.perform_ne_sampleOutOfRange (sound : world.Sound) (op : Operation) (draw : Float) :
    (op.perform world).1 ≠ .error (.failure (.sampleOutOfRange draw)) := by
  intro failed
  cases op with
  | setStrict strict => cases failed
  | randomize words =>
    obtain ⟨cells, -, after⟩ := sound.randomize_eq words
    rw [Operation.perform, after] at failed
    cases failed
  | seedEdge edge s =>
    obtain ⟨_, failed, ⟨⟩⟩ := Answer.orFailure_eq_error.1 failed
    exact sound.seedEdge_ne_sampleOutOfRange edge s draw failed
  | setCell c s =>
    obtain ⟨_, failed, ⟨⟩⟩ := Answer.orFailure_eq_error.1 failed
    exact setCell_ne_sampleOutOfRange c s draw failed
  | step =>
    obtain ⟨_, failed, ⟨⟩⟩ := Answer.orFailure_eq_error.1 failed
    exact step_ne_sampleOutOfRange draw failed
  | run max =>
    have failed' : (world.run max).1 = .error (.failure (.sampleOutOfRange draw)) :=
      map_eq_error.1 failed
    exact steps_ne_sampleOutOfRange _ _ draw (run_eq_failure_iff.1 failed')

end World

theorem Operation.rules_performAll {r : RuleSet} {world : World w h} (sound : world.Sound)
    (rules : world.rules = r) (ops : List Operation) : (performAll world ops).rules = r := by
  induction ops generalizing world with
  | nil => exact rules
  | cons op ops ih => exact ih (sound.perform op) ((sound.rules_perform op).trans rules)

theorem World.rules_of_new {r : RuleSet} {world : World w h} (made : World.new w h r = .ok world) :
    world.rules = r := by
  obtain ⟨-, -, sampler, -, rfl⟩ := new_eq_ok made
  rfl

namespace RuleSet

variable {tolerance : Float} {text : String} {r : RuleSet}

/-! ## Accepted rules can be drawn from -/

theorem IsRead.exists_new_eq (isRead : r.IsRead tolerance) (small : tolerance < 1.0)
    (wide : 0 < w) (high : 0 < h) :
    ∃ fresh, World.new w h r = if World.fits w h then .ok fresh else .error .overflow := by
  obtain ⟨-, close⟩ := RuleFile.checkProbabilities_eq_ok_iff.1 isRead.checked
  have nonneg : ∀ p ∈ r.probabilities, 0 ≤ p := fun p listed => (isRead.probabilities p listed).2
  have whole := Binary64.finite_of_close_to_one (totalProbability_nonneg nonneg) close small
  obtain ⟨sampler, made⟩ := Sampler.exists_ofProbabilities_eq_ok_iff.2 whole
  unfold World.new
  rw [if_neg (by omega), made]
  exact ⟨_, rfl⟩

/-- A world under accepted rules can be drawn at any time, and then every cell has a possible state
and nothing of what was there before is left. No operation ever fails because a draw does not find a
state. With a tolerance below one every world that is not empty can be made. -/
theorem drawing_never_fails (parsed : RuleSet.parse tolerance text = .ok r) :
    (∀ (w h : ℕ) (fresh : World w h), World.new w h r = .ok fresh → ∀ ops,
      let world := Operation.performAll fresh ops
      (∀ words, ∃ cells : Grid State w h, (∀ x y, cells.get x y ∈ r.states) ∧
        world.randomize words = (.ok (), { world with
          cells
          history := ⟨State.ascending r.states,
            #[(State.ascending r.states).map fun s => ⟨cells.number s, 0⟩]⟩
          iteration := 0
          seeded := false
          status := .randomized })) ∧
      ∀ (op : Operation) (draw : Float),
        (op.perform world).1 ≠ .error (.failure (.sampleOutOfRange draw))) ∧
    (tolerance < 1.0 → ∀ w h : ℕ,
      World.new w h r ≠ .error (.failure .degenerateDistribution) ∧
      (0 < w → 0 < h →
        ((∃ fresh : World w h, World.new w h r = .ok fresh) ↔ 4 * (w * h) < 2 ^ 63) ∧
        (World.new w h r = .error .overflow ↔ 2 ^ 63 ≤ 4 * (w * h)))) := by
  constructor
  · intro w h fresh made ops world
    have start := Reachable.of_parse parsed made
    have reachable : Reachable world := Operation.reachable_performAll start ops
    have rules : world.rules = r :=
      Operation.rules_performAll start.sound (World.rules_of_new made) ops
    refine ⟨fun words => ?_, reachable.sound.perform_ne_sampleOutOfRange⟩
    obtain ⟨cells, drawn, after⟩ := reachable.sound.randomize_eq words
    refine ⟨cells, fun x y => ?_, ?_⟩
    · rw [← rules]
      exact reachable.sound.mem_of_sample (drawn x y)
    · rw [after, rules]
  · intro small w h
    constructor
    · by_cases empty : w = 0 ∨ h = 0
      · rw [World.new, if_pos empty]
        simp
      · obtain ⟨fresh, made⟩ :=
          (isRead_of_parse parsed).exists_new_eq (w := w) (h := h) small (by omega) (by omega)
        rw [made]
        split_ifs <;> simp
    · intro wide high
      obtain ⟨fresh, made⟩ := (isRead_of_parse parsed).exists_new_eq small wide high
      rw [made, ← World.fits_iff, ← not_lt, ← World.fits_iff]
      split_ifs with room <;> simp [room]

/-- The forest has burned, and is drawn again with the largest words. -/
theorem drawing_never_fails_forest :
    let burned := Operation.performAll plot [.randomize fun _ => 0, .setCell ⟨0, 0⟩ 1, .run none]
    RuleSet.parse 0.1 "0,1,2\n0.5,0.25,0.25\n3\n1 -> 0\nmin 1: 1: 2 -> 1\ndefault -> x\n" =
      .ok forestRules ∧
      World.new 3 1 forestRules = .ok plot ∧ (0.1 : Float) < 1.0 ∧ burned.status = .converged ∧
      (burned.randomize fun _ => 0xFFFFFFFFFFFFFFFF).1 = .ok () ∧
      (burned.randomize fun _ => 0xFFFFFFFFFFFFFFFF).2.status = .randomized ∧
      (∃ fresh : World 2 5, World.new 2 5 forestRules = .ok fresh) ∧
      World.new (2 ^ 32) (2 ^ 32) forestRules = .error .overflow := by
  intro burned
  have parsed : RuleSet.parse 0.1
    "0,1,2\n0.5,0.25,0.25\n3\n1 -> 0\nmin 1: 1: 2 -> 1\ndefault -> x\n" =
      .ok forestRules := by decide +kernel
  have made : World.new 3 1 forestRules = .ok plot := by decide +kernel
  have small : (0.1 : Float) < 1.0 := by decide +kernel
  obtain ⟨always, exists_new⟩ := drawing_never_fails parsed
  obtain ⟨cells, -, after⟩ := (always 3 1 plot made _).1 fun _ => 0xFFFFFFFFFFFFFFFF
  refine ⟨parsed, made, small, by decide +kernel, congrArg Prod.fst after, ?_,
    ((exists_new small 2 5).2 (by decide) (by decide)).1.2 (by decide),
    ((exists_new small (2 ^ 32) (2 ^ 32)).2 (by decide) (by decide)).2.2 (by decide)⟩
  exact congrArg (fun outcome => outcome.2.status) after

/-! ## States of probability zero -/

/-- The rules list the state with the probability zero. -/
def GivesZero (r : RuleSet) (s : State) : Prop :=
  ∃ p, (s, p) ∈ r.states.zip r.probabilities ∧ (p == 0) = true

/-- The probability of a state is the one at its place, as no state is listed twice. -/
theorem givesZero_iff (distinct : r.states.Nodup) {i : ℕ} {s : State} {p : Float}
    (state : r.states[i]? = some s) (listed : r.probabilities[i]? = some p) :
    r.GivesZero s ↔ (p == 0) = true := by
  constructor
  · rintro ⟨q, together, zero⟩
    obtain ⟨j, there⟩ := List.mem_iff_getElem?.1 together
    obtain ⟨state', listed'⟩ := List.getElem?_zip_eq_some.1 there
    obtain ⟨inside, -⟩ := List.getElem?_eq_some_iff.1 state
    obtain rfl := (List.getElem?_inj inside distinct).1 (state.trans state'.symm)
    cases listed.symm.trans listed'
    exact zero
  · intro zero
    refine ⟨p, List.mem_iff_getElem?.2 ⟨i, ?_⟩, zero⟩
    exact List.getElem?_zip_eq_some.2 ⟨state, listed⟩

/-- A cell is drawn into a state of probability zero if and only if the draw is zero and the first
of all states has the probability zero. -/
theorem zero_drawn_iff_least (parsed : RuleSet.parse tolerance text = .ok r) {fresh : World w h}
    (made : World.new w h r = .ok fresh) (ops : List Operation) (words : Random.Words) (x : Fin w)
    (y : Fin h) :
    r.GivesZero (((Operation.performAll fresh ops).randomize words).2.cells.get x y) ↔
      Random.draw (words (Grid.place x y)) = 0 ∧ ∃ p, r.probabilities.head? = some p ∧
        (p == 0) = true := by
  have start := Reachable.of_parse parsed made
  have isRead := isRead_of_parse parsed
  have rules := Operation.rules_performAll start.sound (World.rules_of_new made) ops
  have reachable := Operation.reachable_performAll start ops
  generalize Operation.performAll fresh ops = world at rules reachable
  obtain rfl := rules
  obtain ⟨fresh', made', table⟩ := reachable.exists_new
  obtain ⟨-, -, sampler, fits, rfl⟩ := World.new_eq_ok made'
  obtain rfl : sampler = world.sampler := table
  obtain ⟨cells, drawn, after⟩ := reachable.sound.randomize_eq words
  rw [after]
  show GivesZero _ (cells.get x y) ↔ _
  obtain ⟨i, found, state⟩ := Sampler.sample_eq_ok_iff.1 (drawn x y)
  obtain ⟨inside, -⟩ := List.getElem?_eq_some_iff.1 state
  rw [← isRead.length_probabilities] at inside
  have listed := List.getElem?_eq_getElem inside
  rw [givesZero_iff isRead.distinct state listed]
  exact Sampler.zero_drawn_iff (fun p listed => (isRead.probabilities p listed).2) fits found listed

def onlyOnes : RuleSet where
  states := [0, 1]
  probabilities := [0, 1]
  simpleRules := []
  neighborRules := []
  defaultRule := .var

def dot : World 1 1 where
  rules := onlyOnes
  sampler := ⟨[0, 1]⟩
  cells := .replicate 0
  scratch := .replicate 0
  history := ⟨[0, 1], #[]⟩
  iteration := 0
  status := .uninitialized
  seeded := false
  strict := false

/-- The smallest draw above zero does not give the state of probability zero. -/
theorem zero_drawn_iff_least_dot :
    RuleSet.parse 0.1 "0,1\n0,1\n1\ndefault -> x\n" = .ok onlyOnes ∧
    World.new 1 1 onlyOnes = .ok dot ∧
      ∀ x y, ¬onlyOnes.GivesZero (((Operation.performAll dot []).randomize fun _ =>
        2048).2.cells.get x y) := by
  have parsed : RuleSet.parse 0.1 "0,1\n0,1\n1\ndefault -> x\n" = .ok onlyOnes := by decide +kernel
  have made : World.new 1 1 onlyOnes = .ok dot := by decide +kernel
  refine ⟨parsed, made, fun x y drawn => ?_⟩
  obtain ⟨least, -⟩ := (zero_drawn_iff_least parsed made [] (fun _ => 2048) x y).1 drawn
  exact absurd least (by decide +kernel)

/-- The draw zero does give it. -/
theorem zero_drawn_dot :
    RuleSet.parse 0.1 "0,1\n0,1\n1\ndefault -> x\n" = .ok onlyOnes ∧
    World.new 1 1 onlyOnes = .ok dot ∧
      (dot.randomize fun _ => 0).1 = .ok () ∧
      (∀ x y, (dot.randomize fun _ => 0).2.cells.get x y = 0) ∧
      onlyOnes.GivesZero 0 := by
  have listed : (0, 0) ∈ onlyOnes.states.zip onlyOnes.probabilities := .head _
  exact ⟨by decide +kernel, by decide +kernel, by decide +kernel, by decide +kernel, 0, listed, rfl⟩

end RuleSet

end CellularAutomaton
