import CellularAutomaton.Proofs.Reachable

/-!
# What can be seen of a world

The scratch buffer is the one part of a world that nothing shows. No operation looks at what it
finds there either: on two worlds that differ in their scratch buffers only, all operations give the
same answers and leave worlds that look the same. So the scratch buffer does not matter for whatever
is done afterwards.
-/

namespace CellularAutomaton

variable {w h : ℕ}

namespace World

variable {α : Type*} {a b : World w h}

def visible (outcome : α × World w h) : α × World w h := (outcome.1, outcome.2.observable)

theorem visible_eq_iff {p q : α × World w h} :
    visible p = visible q ↔ p.1 = q.1 ∧ p.2.observable = q.2.observable := by
  rw [visible, visible, Prod.mk.injEq]

theorem visible_map {β : Type*} (f : α → β) {p q : α × World w h} (same : visible p = visible q) :
    visible (p.map f id) = visible (q.map f id) := by
  obtain ⟨answer, world⟩ := visible_eq_iff.1 same
  exact visible_eq_iff.2 ⟨congrArg f answer, world⟩

theorem eq_withScratch (same : a.observable = b.observable) : b = a.withScratch b.scratch := by
  cases a
  cases b
  simp only [observable, withScratch, mk.injEq] at same ⊢
  tauto

def answers (world : World w h) :
    (Coord → Except Error (Option State)) × List (State × ℕ) × String × RunResult × RunResult :=
  (world.cell, world.counts, world.display, world.snapshot, world.intoResult)

theorem answers_congr (same : a.observable = b.observable) : a.answers = b.answers := by
  rw [eq_withScratch same]
  rfl

/-! ## No operation looks at the scratch buffer -/

variable (world : World w h) (scratch : Grid State w h)

theorem drawCells_withScratch (words : Random.Words) (places : List (Fin w × Fin h)) :
    (world.withScratch scratch).drawCells words places =
      (world.drawCells words places).map id (withScratch scratch) := by
  induction places generalizing world with
  | nil => rfl
  | cons p rest ih =>
    simp only [drawCells, withScratch]
    split
    · rfl
    · next s found =>
      exact ih { world with
        cells := world.cells.set p.1 p.2 s
        history := world.history.record 0 none s }

theorem randomize_withScratch (words : Random.Words) :
    (world.withScratch scratch).randomize words =
      (world.randomize words).map id (withScratch scratch) := by
  let blank := { world with history := .start world.rules.states, iteration := 0, seeded := false }
  have drawn := drawCells_withScratch blank scratch words (Grid.places w h)
  have cleared : { world.withScratch scratch with
      history := .start (world.withScratch scratch).rules.states, iteration := 0,
        seeded := false } =
      blank.withScratch scratch := rfl
  rw [randomize, randomize, cleared, drawn]
  generalize blank.drawCells words (Grid.places w h) = result
  obtain ⟨answer, last⟩ := result
  cases answer <;> rfl

theorem setCells_withScratch (s : State) (cs : List Coord) :
    (world.withScratch scratch).setCells s cs =
      (world.setCells s cs).map id (withScratch scratch) := by
  induction cs generalizing world with
  | nil => rfl
  | cons c rest ih =>
    simp only [setCells]
    split
    · rfl
    · next x y _ => exact ih { world with cells := world.cells.set x y s }

theorem seedEdge_withScratch (edge : Edge) (s : State) :
    (world.withScratch scratch).seedEdge edge s =
      (world.seedEdge edge s).map id (withScratch scratch) := by
  have check : ∀ c, (world.withScratch scratch).checkSetup c s = world.checkSetup c s :=
    fun c => rfl
  have seeded : (world.withScratch scratch).seeded = world.seeded := rfl
  simp only [seedEdge, check, seeded, setCells_withScratch]
  split
  · rfl
  · split_ifs
    · rfl
    · generalize world.setCells s (edge.places w h) = result
      obtain ⟨answer, last⟩ := result
      cases answer <;> rfl

theorem setCell_withScratch (c : Coord) (s : State) :
    (world.withScratch scratch).setCell c s = (world.setCell c s).map id (withScratch scratch) := by
  have check : (world.withScratch scratch).checkSetup c s = world.checkSetup c s := rfl
  simp only [setCell, check]
  split
  · rfl
  · split <;> rfl

theorem visible_step_withScratch :
    visible (world.withScratch scratch).step = visible world.step := by
  cases status : world.status with
  | uninitialized => simp [visible, step, withScratch, observable, status]
  | converged => simp [visible, step, withScratch, observable, status]
  | randomized => exact visible_eq_iff.2 (step_withScratch (.inl status) scratch)
  | running => exact visible_eq_iff.2 (step_withScratch (.inr status) scratch)

/-! ## Worlds that look the same -/

theorem visible_of_withScratch {f : World w h → α × World w h}
    (blind : ∀ world scratch, f (world.withScratch scratch) =
      (f world).map id (withScratch scratch))
    (same : a.observable = b.observable) : visible (f a) = visible (f b) := by
  rw [eq_withScratch same, blind]
  rfl

theorem visible_step (same : a.observable = b.observable) : visible a.step = visible b.step := by
  rw [eq_withScratch same, visible_step_withScratch]

theorem visible_steps (same : a.observable = b.observable) (max : Option ℕ) (n : ℕ) :
    visible (a.steps max n) = visible (b.steps max n) := by
  induction n generalizing a b with
  | zero => exact visible_eq_iff.2 ⟨rfl, same⟩
  | succ n ih =>
    have goes : b.goesOn max = a.goesOn max := by
      rw [eq_withScratch same]
      rfl
    have stepped := visible_eq_iff.1 (visible_step same)
    rw [steps, steps, goes]
    split_ifs
    · generalize a.step = left at stepped
      generalize b.step = right at stepped
      obtain ⟨answer, a⟩ := left
      obtain ⟨answer', b⟩ := right
      obtain ⟨rfl, same⟩ := stepped
      cases answer with
      | error e => exact visible_eq_iff.2 ⟨rfl, same⟩
      | ok k => exact ih same
    · exact visible_eq_iff.2 ⟨rfl, same⟩

theorem visible_run (same : a.observable = b.observable) (max : Option ℕ) :
    visible (a.run max) = visible (b.run max) := by
  have remaining : b.remaining max = a.remaining max := by
    rw [eq_withScratch same]
    rfl
  have stepped := visible_eq_iff.1 (visible_steps same max (a.remaining max))
  rw [run, run, remaining]
  generalize a.steps max (a.remaining max) = left at stepped
  generalize b.steps max (a.remaining max) = right at stepped
  obtain ⟨answer, a⟩ := left
  obtain ⟨answer', b⟩ := right
  obtain ⟨rfl, same⟩ := stepped
  cases answer with
  | error e => exact visible_eq_iff.2 ⟨rfl, same⟩
  | ok =>
    have shown := congrArg (fun last => last.conclude max last.snapshot) same
    exact visible_eq_iff.2 ⟨shown, same⟩

end World

namespace Operation

variable {a b : World w h}

theorem visible_perform (same : a.observable = b.observable) (op : Operation) :
    World.visible (op.perform a) = World.visible (op.perform b) := by
  cases op with
  | setStrict strict =>
    rw [World.eq_withScratch same]
    rfl
  | randomize words =>
    exact World.visible_map _
      (World.visible_of_withScratch (f := (·.randomize words))
        (World.randomize_withScratch · · words) same)
  | seedEdge edge s =>
    exact World.visible_map _
      (World.visible_of_withScratch (f := (·.seedEdge edge s))
        (World.seedEdge_withScratch · · edge s) same)
  | setCell c s =>
    exact World.visible_map _
      (World.visible_of_withScratch (f := (·.setCell c s)) (World.setCell_withScratch · · c s) same)
  | step => exact World.visible_map _ (World.visible_step same)
  | run max => exact World.visible_map _ (World.visible_run same max)

/-- What several operations answer, each with all that can be seen of the world after it. -/
def observations (world : World w h) : List Operation → List (Except Obstacle Answer × World w h)
  | [] => []
  | op :: ops => World.visible (op.perform world) :: observations (op.perform world).2 ops

/-- Whatever is done with worlds that look the same, they cannot be told apart. -/
theorem observations_congr (same : a.observable = b.observable) (ops : List Operation) :
    observations a ops = observations b ops := by
  induction ops generalizing a b with
  | nil => rfl
  | cons op ops ih =>
    have performed := visible_perform same op
    rw [observations, observations, performed, ih (World.visible_eq_iff.1 performed).2]

end Operation

end CellularAutomaton
