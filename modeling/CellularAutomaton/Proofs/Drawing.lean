import CellularAutomaton.CommandLine.Drawing
import CellularAutomaton.Proofs.Resume
import CellularAutomaton.Proofs.Seeds

/-!
# What is shown of a run

A run that is drawn makes the same steps as any other one, and comes to the same result or fails
with the same error. On the way it shows the generations that it goes through, from the first one
on, with the numbers of cells in which each of them differs from the one before.
-/

namespace CellularAutomaton

variable {w h : ℕ}

def Grid.text (g : Grid State w h) : String :=
  String.ofList (World.displayRows (g.toLists.map (·.map State.print)))

def Grid.picture (g : Grid State w h) (headline : String) : String :=
  headline ++ ":\n" ++ g.text ++ "\n\n"

/-- The generation with the number `k`, and in how many cells it differs from the one before. -/
def Grid.roundPicture (k : ℕ) (before after : Grid State w h) : String :=
  after.picture ("Round " ++ decimal k ++ ", " ++ decimal (before.distance after) ++
    " cells changed")

/-- What is shown of the run `i`, if it goes through these generations in `n` steps. -/
def runBlocks (i n : ℕ) (grids : ℕ → Grid State w h) : List String :=
  (grids 0).picture ("Run " ++ decimal (i + 1) ++ ", initial world") ::
    (List.range n).map fun k => Grid.roundPicture (k + 1) (grids k) (grids (k + 1))

namespace World

variable {world : World w h}

theorem display_of_begun (begun : world.status ≠ .uninitialized) :
    world.display = world.cells.text := by
  simp [display, Grid.text, begun]

theorem block_of_begun (begun : world.status ≠ .uninitialized) (headline : String) :
    world.block headline = world.cells.picture headline := by
  rw [block, Grid.picture, display_of_begun begun]

theorem drawnSteps_snd (world : World w h) (max : Option ℕ) (fuel : ℕ) :
    (world.drawnSteps max fuel).2 = (world.steps max fuel).1.map fun _ =>
      (world.steps max fuel).2 := by
  induction fuel generalizing world with
  | zero => rfl
  | succ fuel ih =>
    rw [drawnSteps, steps]
    split_ifs with goes
    · cases world.step with | mk answer next =>
      cases answer with
      | error e => rfl
      | ok n => exact ih next
    · rfl

theorem roundBlock_advance (world : World w h) (after : Grid State w h) :
    (world.advance after).roundBlock (world.cells.distance after) =
      Grid.roundPicture (world.iteration + 1) world.cells after :=
  block_of_begun (world.advance_begun after) _

theorem orbit_of_le_zero (k : ℕ) (none : k ≤ 0) :
    world.rules.orbit world.strict world.cells k = some world.cells := by
  obtain rfl := Nat.le_zero.1 none
  rfl

/-- The blocks of steps that all succeed: they show the generations behind that of the world, one
for each step. -/
theorem drawnSteps_fst (begun : world.status ≠ .uninitialized) {max : Option ℕ} {fuel : ℕ}
    (done : (world.steps max fuel).1 = .ok ()) :
    ∃ n, (world.steps max fuel).2.iteration = world.iteration + n ∧ ∃ grids : ℕ → Grid State w h,
      (∀ k ≤ n, world.rules.orbit world.strict world.cells k = some (grids k)) ∧
      (world.drawnSteps max fuel).1 =
        (List.range n).map fun k => Grid.roundPicture (world.iteration + k + 1) (grids k)
          (grids (k + 1)) := by
  induction fuel generalizing world with
  | zero => exact ⟨0, rfl, fun _ => world.cells, orbit_of_le_zero, rfl⟩
  | succ fuel ih =>
    cases goes : world.goesOn max with
    | false =>
      rw [steps_of_not_goesOn goes, drawnSteps, if_neg (by simp [goes])]
      exact ⟨0, rfl, fun _ => world.cells, orbit_of_le_zero, rfl⟩
    | true =>
      cases stepped : world.step with | mk answer next =>
      cases answer with
      | error e =>
        rw [steps_of_step_error goes stepped] at done
        cases done
      | ok changed =>
        rw [steps_of_step_ok goes stepped] at done ⊢
        obtain ⟨status, -⟩ | ⟨after, there, rfl, rfl⟩ := cases_of_step_ok stepped
        · exact absurd status (goesOn_iff.1 goes).1
        · obtain ⟨n, last, grids, orbit, blocks⟩ := ih (world.advance_begun after) done
          refine ⟨n + 1, last.trans (Nat.add_right_comm world.iteration 1 n),
            fun k => k.casesOn world.cells grids, ?_, ?_⟩
          · rintro (_ | k) bound
            · rfl
            · exact (RuleSet.orbit_succ_of_goes there k).trans
                (orbit k (Nat.le_of_succ_le_succ bound))
          · have first : grids 0 = after := (Option.some.inj (orbit 0 (Nat.zero_le n))).symm
            rw [drawnSteps, if_pos goes, stepped, List.range_succ_eq_map, List.map_cons,
              List.map_map]
            have head : (world.advance after).roundBlock (world.cells.distance after) =
                Grid.roundPicture (world.iteration + 1) world.cells (grids 0) := by
                  rw [first, roundBlock_advance]
            refine congrArg₂ List.cons head (blocks.trans (List.map_congr_left fun k _ => ?_))
            show Grid.roundPicture (world.iteration + 1 + k + 1) _ _ = _
            rw [Nat.add_assoc world.iteration 1 k, Nat.add_comm 1 k]
            rfl

/-! ## Worlds before their first steps -/

theorem exists_drawCells_eq (world : World w h) (words : Random.Words)
    (places : List (Fin w × Fin h)) :
    ∃ cells history, (world.drawCells words places).2 = { world with cells, history } := by
  induction places generalizing world with
  | nil => exact ⟨_, _, rfl⟩
  | cons p rest ih =>
    rw [drawCells]
    split
    · exact ⟨_, _, rfl⟩
    · exact ih _

theorem of_randomize_eq_ok {world : World w h} {words : Random.Words}
    (drawn : (world.randomize words).1 = .ok ()) :
    (world.randomize words).2.rules = world.rules ∧
    (world.randomize words).2.strict = world.strict ∧
      (world.randomize words).2.status = .randomized ∧ (world.randomize words).2.iteration = 0 := by
  unfold randomize at drawn ⊢
  obtain ⟨cells, history, after⟩ := exists_drawCells_eq
    { world with history := .start world.rules.states, iteration := 0, seeded := false } words
      (Grid.places w h)
  dsimp only at drawn ⊢
  generalize drawCells words (Grid.places w h) _ = result at after drawn ⊢
  obtain ⟨answer | answer, last⟩ := result
  · cases drawn
  · obtain rfl := after
    exact ⟨rfl, rfl, rfl, rfl⟩

end World

namespace Config

variable {c : Config} {entropy : ℕ → UInt64} {rules : RuleSet} {i : ℕ}

theorem worldOfRun_eq_ok {start : World c.width c.height}
    (made : c.worldOfRun entropy rules i = .ok start) :
    start.rules = rules ∧ start.strict = c.strict ∧ start.status = .randomized ∧
    start.iteration = 0 := by
  simp only [worldOfRun, world, bind_eq_ok, map_eq_ok, mapError_eq_ok] at made
  obtain ⟨blank, ⟨fresh, founded, rfl⟩, _, drawn, made⟩ := made
  obtain ⟨wide, high, sampler, -, rfl⟩ := World.new_eq_ok founded
  have first := World.of_randomize_eq_ok drawn
  generalize (World.randomize _ _).2 = world at first made
  cases given : c.edge with
  | none =>
    rw [given] at made
    cases made
    exact first
  | some edge =>
    simp only [given, bind_eq_ok, mapError_eq_ok] at made
    obtain ⟨_, seeded, made⟩ := made
    obtain ⟨e, failed⟩ | ⟨-, cells, done⟩ := world.seedEdge_cases wide high edge.edge edge.state
    · rw [failed] at seeded
      cases seeded
    · rw [done] at made
      cases made
      exact first

/-- The blocks show a run of `n` steps. -/
def Shows (c : Config) (entropy : ℕ → UInt64) (rules : RuleSet) (i n : ℕ)
    (blocks : List String) : Prop :=
  ∃ start, c.worldOfRun entropy rules i = .ok start ∧ ∃ grids : ℕ → Grid State c.width c.height,
    (∀ k ≤ n, rules.orbit c.strict start.cells k = some (grids k)) ∧ blocks = runBlocks i n grids

/-- A run that is drawn comes to the result of any other one, or to its error. -/
theorem drawnRun_snd (c : Config) (entropy : ℕ → UInt64) (rules : RuleSet) (i : ℕ) :
    (c.drawnRun entropy rules i).2 = c.run entropy rules i := by
  unfold drawnRun run
  cases c.worldOfRun entropy rules i with
  | error e => rfl
  | ok start =>
    show c.drawnResult (start.drawnSteps c.maxIterations (start.remaining c.maxIterations)).2 =
      (start.run c.maxIterations).1
    rw [World.drawnSteps_snd, World.run]
    generalize start.steps c.maxIterations (start.remaining c.maxIterations) = result
    -- a result that is taken out of the world is that of a snapshot
    obtain ⟨e | _, last⟩ := result <;> rfl

theorem drawnRun_shows {r : RunResult} (done : c.run entropy rules i = .ok r) :
    c.Shows entropy rules i r.iterations (c.drawnRun entropy rules i).1 := by
  obtain ⟨start, made, ran⟩ := bind_eq_ok.1 done
  obtain ⟨rfl, strict, status, iteration⟩ := worldOfRun_eq_ok made
  have begun : start.status ≠ .uninitialized := by simp [status]
  obtain ⟨stepped, -, rfl⟩ := World.run_eq_ok_iff.1 ran
  rw [World.run_snd]
  obtain ⟨n, last, grids, orbit, blocks⟩ := World.drawnSteps_fst begun stepped
  rw [iteration, Nat.zero_add] at last
  have count : (start.steps c.maxIterations
    (start.remaining c.maxIterations)).2.snapshot.iterations = n := last
  have first : grids 0 = start.cells := (Option.some.inj (orbit 0 (Nat.zero_le n))).symm
  rw [count]
  rw [strict] at orbit
  refine ⟨start, made, grids, orbit, ?_⟩
  rw [drawnRun, made, runBlocks, first, ← World.block_of_begun begun]
  show start.initialBlock i ::
    (start.drawnSteps c.maxIterations (start.remaining c.maxIterations)).1 = _
  rw [blocks, iteration]
  simp only [Nat.zero_add]
  rfl

theorem drawnRun_of_runAll_eq_ok {results : List RunResult}
    (done : c.runAll entropy rules = .ok results) {r : RunResult} (found : results[i]? = some r) :
    (c.drawnRun entropy rules i).2 = .ok r := by
  obtain ⟨-, each⟩ := runsFrom_eq_ok_iff.1 done
  rw [drawnRun_snd, ← each i r found, Nat.zero_add]

theorem exists_drawnRun_of_runAll_eq_error {o : Obstacle}
    (failed : c.runAll entropy rules = .error o) :
    ∃ i < c.runs, (c.drawnRun entropy rules i).2 = .error o := by
  obtain ⟨i, bound, here, -⟩ := runsFrom_eq_error_iff.1 failed
  exact ⟨i, bound, by rw [drawnRun_snd, ← here, Nat.zero_add]⟩

theorem Shows.of_seed {s : UInt64} (seed : c.seed = some s) {n : ℕ} {blocks : List String}
    (shows : c.Shows entropy rules i n blocks) (entropy' : ℕ → UInt64) :
    c.Shows entropy' rules i n blocks := by
  obtain ⟨start, made, shown⟩ := shows
  exact ⟨start, by rw [worldOfRun_entropy seed rules entropy' entropy, made], shown⟩

theorem drawnRunsFrom_snd (c : Config) (entropy : ℕ → UInt64) (rules : RuleSet) (first n : ℕ) :
    (c.drawnRunsFrom entropy rules first n).2 = c.runsFrom entropy rules first n := by
  induction n generalizing first with
  | zero => rfl
  | succ n ih =>
    rw [drawnRunsFrom, runsFrom, ← drawnRun_snd, ← ih]
    obtain ⟨blocks, e | r⟩ := c.drawnRun entropy rules first
    · rfl
    · obtain ⟨more, e | rest⟩ := c.drawnRunsFrom entropy rules (first + 1) n <;> rfl

/-- Runs that all succeed are shown one after another. -/
theorem drawnRunsFrom_fst {first n : ℕ} {results : List RunResult}
    (done : c.runsFrom entropy rules first n = .ok results) :
    (c.drawnRunsFrom entropy rules first n).1 =
      (List.range' first n).flatMap fun i => (c.drawnRun entropy rules i).1 := by
  induction n generalizing first results with
  | zero => rfl
  | succ n ih =>
    simp only [runsFrom, bind_eq_ok] at done
    obtain ⟨r, here, rest, later, -⟩ := done
    rw [← drawnRun_snd] at here
    rw [drawnRunsFrom, List.range'_succ, List.flatMap_cons, ← ih later]
    simp only [here]

end Config

end CellularAutomaton
