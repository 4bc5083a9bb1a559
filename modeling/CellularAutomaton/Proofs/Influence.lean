import CellularAutomaton.Proofs.Convergence

/-!
# How far influence travels

The next state of a cell is said by the cell itself and those around it. So a difference at one
place makes no difference farther than one cell away after one step, or farther than `k` cells away
after `k` steps. A world that has converged is no exception: its cells stay as they are, and so the
rules would have it.
-/

namespace CellularAutomaton

variable {w h : ℕ}

/-! ## Places near to each other -/

namespace Coord

/-- The second place lies at most `k` columns and at most `k` rows away from the first one. -/
def Near (k : ℕ) (c d : Coord) : Prop := |(d.x : ℤ) - c.x| ≤ k ∧ |(d.y : ℤ) - c.y| ≤ k

theorem Near.refl (k : ℕ) (c : Coord) : c.Near k c := by simp [Near]

theorem Near.trans {k l : ℕ} {c d e : Coord} (first : c.Near k d) (second : d.Near l e) :
    c.Near (k + l) e := by
  obtain ⟨column, row⟩ := first
  obtain ⟨column', row'⟩ := second
  rw [abs_le] at column row column' row'
  constructor
  all_goals
    rw [abs_le]
    push_cast
    omega

end Coord

namespace Grid

theorem at?_congr {α : Type*} {a b : Grid α w h} {x y : ℤ}
    (same : ∀ (i : Fin w) (j : Fin h), (i : ℤ) = x → (j : ℤ) = y → a.get i j = b.get i j) :
    a.at? x y = b.at? x y := by
  unfold at?
  split_ifs with inside
  · exact congrArg some (same _ _ (Int.toNat_of_nonneg inside.1) (Int.toNat_of_nonneg inside.2.2.1))
  · rfl

/-- Two grids have the same cells near a place, as far as these lie inside. -/
def AgreeNear (k : ℕ) (c : Coord) (a b : Grid State w h) : Prop :=
  ∀ (x : Fin w) (y : Fin h), c.Near k ⟨x, y⟩ → a.get x y = b.get x y

variable {a b : Grid State w h}

theorem block_congr {x : Fin w} {y : Fin h} (same : AgreeNear 1 ⟨x, y⟩ a b) :
    a.block x y = b.block x y := by
  ext1 i bound
  simp only [block, Vector.getElem_ofFn]
  refine at?_congr fun x' y' column row => same x' y' ⟨?_, ?_⟩
  · simp only [column, abs_le]
    omega
  · simp only [row, abs_le]
    omega

/-- The rules look no farther than one cell. -/
theorem target_congr (r : RuleSet) {x : Fin w} {y : Fin h} (same : AgreeNear 1 ⟨x, y⟩ a b) :
    r.target a x y = r.target b x y := by
  rw [RuleSet.target, RuleSet.target, block_congr same, same x y (.refl _ _)]

end Grid

/-! ## Steps of two worlds -/

/-- In a step that succeeds every cell goes to the state that the rules give for it, also when the
world has converged and the step computes nothing. -/
theorem Reachable.target_of_step_ok {world next : World w h} (reachable : Reachable world) {n : ℕ}
    (stepped : world.step = (.ok n, next)) (x : Fin w) (y : Fin h) :
    world.rules.target world.cells x y = .ok (next.cells.get x y) := by
  obtain ⟨status, -, rfl⟩ | ⟨after, goes, -, rfl⟩ := World.cases_of_step_ok stepped
  · exact reachable.settled status x y
  · exact (RuleSet.allowed?_eq_some.1 (RuleSet.globalMap_eq_some.1 goes x y)).1

namespace World

variable {a b a' b' : World w h} {k n m : ℕ} {ns ms : List ℕ} {c : Coord}

theorem agreeNear_step (reachable : Reachable a) (reachable' : Reachable b)
    (rules : a.rules = b.rules) (stepped : a.step = (.ok n, a')) (stepped' : b.step = (.ok m, b'))
    (agree : Grid.AgreeNear (k + 1) c a.cells b.cells) : Grid.AgreeNear k c a'.cells b'.cells := by
  intro x y near
  have around : Grid.AgreeNear 1 ⟨x, y⟩ a.cells b.cells :=
    fun x' y' next => agree x' y' (near.trans next)
  have target := Grid.target_congr a.rules around
  rw [reachable.target_of_step_ok stepped, rules, reachable'.target_of_step_ok stepped'] at target
  exact Except.ok.inj target

theorem Walks.agreeNear (walks : a.Walks ns a') (walks' : b.Walks ms b')
    (length : ns.length = ms.length) (reachable : Reachable a) (reachable' : Reachable b)
    (rules : a.rules = b.rules) (agree : Grid.AgreeNear (k + ns.length) c a.cells b.cells) :
    Grid.AgreeNear k c a'.cells b'.cells := by
  -- Each step makes the neighborhood smaller in which the worlds agree.
  induction walks generalizing b ms with
  | stay world =>
    cases walks' with
    | stay => exact agree
    | step first rest => cases length
  | @step a next last n ns first rest ih =>
    cases walks' with
    | stay => cases length
    | @step _ next' _ m ms first' rest' =>
      have agree' := agreeNear_step reachable reachable' rules first first' agree
      obtain rfl : next = a.step.2 := by rw [first]
      obtain rfl : next' = b.step.2 := by rw [first']
      have rules' : a.step.2.rules = b.step.2.rules := by rw [a.rules_step, b.rules_step, rules]
      exact ih rest' (Nat.succ.inj length) (.perform .step reachable) (.perform .step reachable')
        rules' agree'

theorem cell_of_begun (begun : a.status ≠ .uninitialized) (x : Fin w) (y : Fin h) :
    a.cell ⟨x, y⟩ = .ok (some (a.cells.get x y)) := by
  have inside : x.val < w ∧ y.val < h := ⟨x.isLt, y.isLt⟩
  rw [cell, locate, Grid.locate?, dif_pos inside]
  exact congrArg Except.ok (if_neg begun)

theorem cell_of_outside {c : Coord} (outside : ¬(c.x < w ∧ c.y < h)) :
    a.cell c = .error (.outOfBounds c) := by
  rw [cell, locate, Grid.locate?, dif_neg outside]
  rfl

end World

/-- If two worlds under the same rules agree at all places at most `k` columns and rows away from a
place, then they agree at this place after `k` steps, whatever is farther away, and whether a step
is computed or left out because a world has converged. -/
theorem Reachable.influence_is_local {a b : World w h} (reachable : Reachable a)
    (reachable' : Reachable b) (begun : a.status ≠ .uninitialized)
    (begun' : b.status ≠ .uninitialized) (rules : a.rules = b.rules) {k : ℕ} {c : Coord}
    (agree : ∀ d : Coord, d.x < w → d.y < h → c.Near k d → a.cell d = b.cell d) {ns ms : List ℕ}
    {a' b' : World w h} (walks : a.Walks ns a') (walks' : b.Walks ms b') (length : ns.length = k)
    (length' : ms.length = k) : a'.cell c = b'.cell c := by
  by_cases inside : c.x < w ∧ c.y < h
  · have agree' : Grid.AgreeNear (0 + ns.length) c a.cells b.cells := by
      intro x y near
      rw [Nat.zero_add, length] at near
      have same := agree ⟨x, y⟩ x.isLt y.isLt near
      rw [World.cell_of_begun begun, World.cell_of_begun begun'] at same
      exact Option.some.inj (Except.ok.inj same)
    have there := walks.agreeNear walks' (length.trans length'.symm) reachable reachable'
      rules agree' ⟨c.x, inside.1⟩ ⟨c.y, inside.2⟩ (.refl _ _)
    have here := World.cell_of_begun (walks.begun begun) ⟨c.x, inside.1⟩ ⟨c.y, inside.2⟩
    have here' := World.cell_of_begun (walks'.begun begun') ⟨c.x, inside.1⟩ ⟨c.y, inside.2⟩
    rw [here, here', there]
  · rw [World.cell_of_outside inside, World.cell_of_outside inside]

def hedge : World 4 1 where
  rules := forestRules
  sampler := ⟨[0.5, 0.75, 1]⟩
  cells := .replicate 2
  scratch := .replicate 0
  history := ⟨[0, 1, 2], #[[⟨0, 0⟩, ⟨0, 0⟩, ⟨4, 0⟩]]⟩
  iteration := 0
  status := .randomized
  seeded := false
  strict := false

theorem reachable_hedge : Reachable hedge := by
  have made : World.new 4 1 forestRules = .ok
      { hedge with
        cells := .replicate 0
        history := ⟨[0, 1, 2], #[]⟩
        status := .uninitialized } := by decide +kernel
  have drawn : ((Operation.randomize fun _ => 0xF000000000000000).perform
      { hedge with
        cells := .replicate 0
        history := ⟨[0, 1, 2], #[]⟩
        status := .uninitialized }).2 = hedge := by
    decide +kernel
  rw [← drawn]
  exact .perform _ (.new (by decide) made)

def burningHedge : World 4 1 := (hedge.setCell ⟨3, 0⟩ 1).2

/-- Without a fire the hedge has converged after one step. A fire at its end is not seen at the
other end after two steps, but it has come two places far. -/
theorem Reachable.influence_is_local_hedge :
    Reachable hedge ∧ Reachable burningHedge ∧ hedge.status ≠ .uninitialized ∧
    burningHedge.status ≠ .uninitialized ∧
    hedge.rules = burningHedge.rules ∧
    (∀ d : Coord, d.x < 4 → d.y < 1 → (⟨0, 0⟩ : Coord).Near 2 d →
      hedge.cell d = burningHedge.cell d) ∧
    ∃ last last', hedge.Walks [0, 0] last ∧ burningHedge.Walks [2, 2] last' ∧
      last.status = .converged ∧
      last'.status = .running ∧ last.cell ⟨0, 0⟩ = last'.cell ⟨0, 0⟩ ∧
      last.cell ⟨1, 0⟩ ≠ last'.cell ⟨1, 0⟩ := by
  have reachable : Reachable burningHedge := .perform (.setCell ⟨3, 0⟩ 1) reachable_hedge
  have agree : ∀ d : Coord, d.x < 4 → d.y < 1 → (⟨0, 0⟩ : Coord).Near 2 d →
      hedge.cell d = burningHedge.cell d := by
    rintro ⟨x, y⟩ wide high ⟨column, -⟩
    simp only [abs_le] at column
    obtain rfl : y = 0 := Nat.lt_one_iff.1 high
    obtain rfl | rfl | rfl : x = 0 ∨ x = 1 ∨ x = 2 := by omega
    all_goals decide +kernel
  have walks : hedge.Walks [0, 0] hedge.step.2.step.2 :=
    .of_answer (by decide +kernel) (.of_answer (by decide +kernel) (.stay _))
  have walks' : burningHedge.Walks [2, 2] burningHedge.step.2.step.2 :=
    .of_answer (by decide +kernel) (.of_answer (by decide +kernel) (.stay _))
  have same := influence_is_local reachable_hedge reachable (by decide) (by decide) rfl agree walks
    walks' rfl rfl
  exact ⟨reachable_hedge, reachable, by decide, by decide, rfl, agree, _, _, walks, walks',
    by decide +kernel, by decide +kernel, same, by decide +kernel⟩

end CellularAutomaton
