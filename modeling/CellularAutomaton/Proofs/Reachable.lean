import CellularAutomaton.Proofs.Flow
import CellularAutomaton.Proofs.RuleFile.Reading
import CellularAutomaton.Proofs.Sampling
import CellularAutomaton.Proofs.Step
import CellularAutomaton.World.Setup

/-!
# Reachable worlds

A world is reachable if operations lead to it from a new one, whether they succeed or fail. In a
reachable world every draw finds a state, so that it can always be randomized, and the history
tracks the possible states and has one round for the initialization and one for each step.
-/

namespace CellularAutomaton

variable {w h : ℕ}

inductive Operation
  | setStrict (strict : Bool)
  | randomize (words : Random.Words)
  | seedEdge (edge : Edge) (s : State)
  | setCell (c : Coord) (s : State)
  | step
  | run (max : Option ℕ)

/-- What an operation answers when it succeeds. -/
inductive Answer
  | done
  | changed (n : ℕ)
  | result (r : RunResult)

def Answer.orFailure {α : Type} (answer : α → Answer) (x : Except Error α) :
    Except Obstacle Answer :=
  (x.map answer).mapError .failure

theorem Answer.orFailure_eq_error {α : Type} {answer : α → Answer} {x : Except Error α}
    {o : Obstacle} :
    orFailure answer x = .error o ↔ ∃ e, x = .error e ∧ o = .failure e := by
  rw [orFailure, mapError_eq_error]
  simp only [map_eq_error, eq_comm (b := o)]

def Operation.perform (world : World w h) : Operation → Except Obstacle Answer × World w h
  | setStrict strict => (.ok .done, world.setStrict strict)
  | randomize words => Prod.map (Answer.orFailure fun _ => .done) id (world.randomize words)
  | seedEdge edge s => Prod.map (Answer.orFailure fun _ => .done) id (world.seedEdge edge s)
  | setCell c s => Prod.map (Answer.orFailure fun _ => .done) id (world.setCell c s)
  | step => Prod.map (Answer.orFailure .changed) id world.step
  | run max => Prod.map (Except.map .result) id (world.run max)

inductive Reachable : World w h → Prop
  | new {r : RuleSet} {world : World w h} (enough : r.probabilities.length ≤ r.states.length)
      (made : World.new w h r = .ok world) : Reachable world
  | perform {world : World w h} (op : Operation) (before : Reachable world) :
      Reachable (op.perform world).2

namespace World

variable {world : World w h}

/-! ## What the operations change -/

theorem fits_iff : fits w h = true ↔ 4 * (w * h) < 2 ^ 63 := decide_eq_true_iff

theorem new_ne_endless {r : RuleSet} : World.new w h r ≠ .error .endless := by
  unfold World.new
  split_ifs <;> [skip; split; split] <;> simp

theorem new_eq_ok {r : RuleSet} (made : World.new w h r = .ok world) :
    0 < w ∧ 0 < h ∧ ∃ sampler, Sampler.ofProbabilities r.probabilities = .ok sampler ∧
      world = { rules := r, sampler, cells := .replicate 0, scratch := .replicate 0,
                history := .start r.states, iteration := 0, status := .uninitialized, seeded :=
                  false,
                strict := false } := by
  unfold World.new at made
  split_ifs at made with empty <;> split at made <;> cases made
  next sampler table => exact ⟨by omega, by omega, sampler, table, rfl⟩

theorem drawCells_eq (world : World w h) (words : Random.Words)
    (finds : ∀ word, ∃ s, world.sampler.sample world.rules.states (Random.draw word) = .ok s)
    {places : List (Fin w × Fin h)} (distinct : places.Nodup) :
    ∃ cells : Grid State w h,
      (∀ q ∉ places, cells.get q.1 q.2 = world.cells.get q.1 q.2) ∧
      (∀ q ∈ places, world.sampler.sample world.rules.states
        (Random.draw (words (Grid.place q.1 q.2))) =
        .ok (cells.get q.1 q.2)) ∧
      world.drawCells words places = (.ok (), { world with
        cells
        history := world.history.recordMoves 0
          (places.map fun p => (none, cells.get p.1 p.2)) }) := by
  induction places generalizing world with
  | nil => exact ⟨world.cells, fun _ _ => rfl, by simp, rfl⟩
  | cons p rest ih =>
    obtain ⟨fresh, distinct⟩ := List.nodup_cons.1 distinct
    obtain ⟨s, found⟩ := finds (words (Grid.place p.1 p.2))
    obtain ⟨cells, outside, drawn, after⟩ := ih { world with
      cells := world.cells.set p.1 p.2 s
      history := world.history.record 0 none s } finds distinct
    have written : cells.get p.1 p.2 = s := by
      rw [outside p fresh, Grid.get_set, if_pos ⟨rfl, rfl⟩]
    refine ⟨cells, ?_, ?_, ?_⟩
    · intro q absent
      rw [List.mem_cons, not_or] at absent
      rw [outside q absent.2, Grid.get_set, if_neg]
      rintro ⟨column, row⟩
      exact absent.1 (Prod.ext column.symm row.symm)
    · intro q inside
      rcases List.mem_cons.1 inside with rfl | later
      · rw [written, found]
      · exact drawn q later
    · rw [drawCells, found]
      dsimp only
      rw [after, List.map_cons, written]
      rfl

theorem exists_setCells_eq (world : World w h) (s : State) (cs : List Coord) :
    ∃ cells, (world.setCells s cs).2 = { world with cells } := by
  induction cs generalizing world with
  | nil => exact ⟨world.cells, rfl⟩
  | cons c rest ih =>
    rw [setCells]
    split
    · exact ⟨world.cells, rfl⟩
    · exact ih _

theorem setCells_eq_ok (world : World w h) {cs : List Coord} (inside : ∀ c ∈ cs, c.x < w ∧ c.y < h)
    (s : State) :
    (world.setCells s cs).1 = .ok () := by
  induction cs generalizing world with
  | nil => rfl
  | cons c rest ih =>
    have here : c.x < w ∧ c.y < h := inside c List.mem_cons_self
    rw [setCells, locate, Grid.locate?, dif_pos here]
    exact ih _ fun c later => inside c (List.mem_cons_of_mem _ later)

theorem mem_edge_places (wide : 0 < w) (high : 0 < h) (edge : Edge) {c : Coord}
    (inside : c ∈ edge.places w h) : c.x < w ∧ c.y < h := by
  cases edge <;>
  · simp only [Edge.places, List.mem_map, List.mem_range] at inside
    obtain ⟨k, bound, rfl⟩ := inside
    constructor <;> dsimp only <;> omega

theorem get_setCells (world : World w h) {cs : List Coord}
    (inside : ∀ c ∈ cs, c.x < w ∧ c.y < h) (s : State) (x : Fin w) (y : Fin h) :
    (world.setCells s cs).2.cells.get x y = if (⟨x, y⟩ : Coord) ∈ cs then s
      else world.cells.get x y := by
  induction cs generalizing world with
  | nil => rfl
  | cons c rest ih =>
    obtain ⟨column, row⟩ := c
    have here : column < w ∧ row < h := inside _ List.mem_cons_self
    rw [setCells, locate, Grid.locate?, dif_pos here]
    refine (ih _ fun c later => inside c (List.mem_cons_of_mem _ later)).trans ?_
    by_cases later : (⟨x, y⟩ : Coord) ∈ rest
    · rw [if_pos later, if_pos (List.mem_cons_of_mem _ later)]
    · simp only [List.mem_cons, later, if_false, or_false, Coord.mk.injEq, Grid.get_set,
        Fin.ext_iff, eq_comm]

theorem checkSetup_eq_ok {c : Coord} {s : State} (passed : world.checkSetup c s = .ok ()) :
    world.status = .randomized ∧ (world.strict = true → s ∈ world.rules.states) := by
  unfold checkSetup at passed
  split_ifs at passed with forbidden foreign
  · refine ⟨not_not.1 forbidden, fun on => ?_⟩
    simpa [RuleSet.isPossible, on] using foreign

theorem seedEdge_writes (world : World w h) (wide : 0 < w) (high : 0 < h) (edge : Edge)
    (s : State) :
    (∃ e, world.seedEdge edge s = (.error e, world)) ∨
    (world.status = .randomized ∧ (world.strict = true → s ∈ world.rules.states) ∧
      ∃ cells : Grid State w h,
      (∀ x y, cells.get x y = if (⟨x, y⟩ : Coord) ∈ edge.places w h then s
        else world.cells.get x y) ∧
      world.seedEdge edge s = (.ok (), { world with cells, seeded := true })) := by
  rw [seedEdge]
  split
  · exact .inl ⟨_, rfl⟩
  · next passed =>
    split_ifs
    · exact .inl ⟨_, rfl⟩
    · have inside : ∀ c ∈ edge.places w h, c.x < w ∧ c.y < h :=
        fun c => mem_edge_places wide high edge
      obtain ⟨cells, after⟩ := exists_setCells_eq world s (edge.places w h)
      have written := world.setCells_eq_ok inside s
      have holds := world.get_setCells inside s
      generalize world.setCells s (edge.places w h) = result at after written holds
      obtain ⟨answer, last⟩ := result
      obtain rfl : answer = .ok () := written
      obtain rfl : last = { world with cells } := after
      obtain ⟨status, possible⟩ := checkSetup_eq_ok passed
      exact .inr ⟨status, possible, cells, holds, rfl⟩

theorem seedEdge_cases (world : World w h) (wide : 0 < w) (high : 0 < h) (edge : Edge) (s : State) :
    (∃ e, world.seedEdge edge s = (.error e, world)) ∨
    (world.status = .randomized ∧
      ∃ cells, world.seedEdge edge s = (.ok (), { world with cells, seeded := true })) :=
  (world.seedEdge_writes wide high edge s).imp_right fun ⟨status, _, cells, _, done⟩ =>
    ⟨status, cells, done⟩

theorem setCell_writes (world : World w h) (c : Coord) (s : State) :
    (∃ e, world.setCell c s = (.error e, world)) ∨
    (world.status = .randomized ∧ (world.strict = true → s ∈ world.rules.states) ∧
      ∃ (x : Fin w) (y : Fin h),
      c = ⟨x, y⟩ ∧ world.setCell c s =
        (.ok (), { world with cells := world.cells.set x y s })) := by
  rw [setCell, locate, Grid.locate?]
  split_ifs with inside
  · dsimp only
    split
    · exact .inl ⟨_, rfl⟩
    · next passed =>
      obtain ⟨status, possible⟩ := checkSetup_eq_ok passed
      exact .inr ⟨status, possible, _, _, rfl, rfl⟩
  · exact .inl ⟨_, rfl⟩

theorem setCell_cases (world : World w h) (c : Coord) (s : State) :
    (∃ e, world.setCell c s = (.error e, world)) ∨
    (world.status = .randomized ∧ ∃ cells, world.setCell c s = (.ok (), { world with cells })) :=
  (world.setCell_writes c s).imp_right fun ⟨status, _, _, _, _, done⟩ => ⟨status, _, done⟩

theorem run_snd (max : Option ℕ) :
    (world.run max).2 = (world.steps max (world.remaining max)).2 := by
  rw [run]
  split <;> next same => rw [same]

theorem steps_keeps {P : World w h → Prop} (kept : ∀ world, P world → P world.step.2)
    (holds : P world) (max : Option ℕ) (n : ℕ) : P (world.steps max n).2 := by
  induction n generalizing world with
  | zero => exact holds
  | succ n ih =>
    have after := kept world holds
    rw [steps]
    split_ifs
    · split
      · next failed => rwa [failed] at after
      · next moved =>
        rw [moved] at after
        exact ih after
    · exact holds

theorem run_keeps {P : World w h → Prop} (kept : ∀ world, P world → P world.step.2)
    (holds : P world) (max : Option ℕ) : P (world.run max).2 := by
  rw [run_snd]
  exact steps_keeps kept holds max _

/-! ## What holds of every reachable world -/

structure Sound (world : World w h) : Prop where
  wide : 0 < w
  high : 0 < h
  samples : ∀ word, ∃ s ∈ world.rules.states,
    world.sampler.sample world.rules.states (Random.draw word) = .ok s
  tracked : world.history.states = State.ascending world.rules.states
  /-- There is one round for the initialization and one for each step. -/
  rounds : world.history.rounds.size = if world.status = .uninitialized then 0
    else world.iteration + 1
  begins : world.status = .uninitialized ∨ world.status = .randomized → world.iteration = 0

namespace Sound

theorem distinct (sound : world.Sound) : world.history.states.Nodup := by
  rw [sound.tracked]
  exact State.nodup_ascending _

theorem mem_tracked (sound : world.Sound) {s : State} :
    s ∈ world.history.states ↔ s ∈ world.rules.states := by
  rw [sound.tracked]
  exact State.mem_ascending

theorem rounds_size (sound : world.Sound) (begun : world.status ≠ .uninitialized) :
    world.history.rounds.size = world.iteration + 1 := by rw [sound.rounds, if_neg begun]

theorem of_new {r : RuleSet} (enough : r.probabilities.length ≤ r.states.length)
    (made : World.new w h r = .ok world) : world.Sound := by
  obtain ⟨wide, high, sampler, fits, rfl⟩ := new_eq_ok made
  exact ⟨wide, high, Sampler.exists_sample_eq_ok fits enough, rfl, rfl, fun _ => rfl⟩

theorem mem_of_sample (sound : world.Sound) {word : UInt64} {s : State}
    (drawn : world.sampler.sample world.rules.states (Random.draw word) = .ok s) :
    s ∈ world.rules.states := by
  obtain ⟨t, inside, found⟩ := sound.samples word
  rw [drawn] at found
  cases found
  exact inside

theorem history_advance (sound : world.Sound) (active : world.Active) (next : Grid State w h) :
    (world.advance next).history = ⟨world.history.states,
      world.history.rounds.push (world.history.states.map (world.cells.flow next))⟩ := by
  show world.history.recordAll (world.iteration + 1) world.cells next = _
  rw [← sound.rounds_size active.begun]
  exact History.recordAll_next _ sound.distinct sound.wide sound.high _ _

theorem advance (sound : world.Sound) (active : world.Active) (next : Grid State w h) :
    (world.advance next).Sound := by
  refine ⟨sound.wide, sound.high, sound.samples, ?_, ?_, ?_⟩
  · rw [sound.history_advance active]
    exact sound.tracked
  · rw [sound.history_advance active, Array.size_push, sound.rounds_size active.begun,
      if_neg (world.advance_begun next)]
    rfl
  · rcases world.advance_status next with status | status <;> simp [status]

theorem step (sound : world.Sound) : world.step.2.Sound := by
  obtain ⟨-, same⟩ | ⟨-, same⟩ | ⟨active, next, -, moved⟩ | ⟨-, -, e, scratch, failed⟩ :=
    world.step_cases
  · rwa [same]
  · rwa [same]
  · rw [moved]
    exact sound.advance active next
  · rw [failed]
    exact { sound with }

/-- A world can always be randomized. Then every cell has one of the possible states, and the only
round tells how many cells have each of them. -/
theorem randomize_eq (sound : world.Sound) (words : Random.Words) :
    ∃ cells : Grid State w h,
      (∀ x y, world.sampler.sample world.rules.states (Random.draw (words (Grid.place x y))) =
        .ok (cells.get x y)) ∧
      world.randomize words = (.ok (), { world with
        cells
        history := ⟨State.ascending world.rules.states,
          #[(State.ascending world.rules.states).map fun s => ⟨cells.number s, 0⟩]⟩
        iteration := 0
        seeded := false
        status := .randomized }) := by
  obtain ⟨cells, -, drawn, after⟩ := drawCells_eq
    { world with history := .start world.rules.states, iteration := 0, seeded := false } words
    (fun word => (sound.samples word).imp fun _ found => found.2) Grid.nodup_places
  refine ⟨cells, fun x y => drawn (x, y) (Grid.mem_places _), ?_⟩
  have round := History.recordMoves_new (.start world.rules.states) (State.nodup_ascending _)
    cells.arrivals (by simpa [Grid.arrivals] using History.moves_ne_nil sound.wide sound.high)
  rw [funext Grid.delta_arrivals] at round
  rw [World.randomize, after]
  exact congrArg (fun past => (Except.ok (), { world with
    cells, history := past, iteration := 0, seeded := false, status := .randomized })) round

theorem randomize (sound : world.Sound) (words : Random.Words) :
    (world.randomize words).2.Sound := by
  obtain ⟨cells, -, after⟩ := sound.randomize_eq words
  rw [after]
  exact ⟨sound.wide, sound.high, sound.samples, rfl, rfl, fun _ => rfl⟩

theorem perform (sound : world.Sound) (op : Operation) : (op.perform world).2.Sound := by
  cases op with
  | setStrict strict => exact { sound with }
  | randomize words => exact sound.randomize words
  | seedEdge edge s =>
    show (world.seedEdge edge s).2.Sound
    obtain ⟨e, failed⟩ | ⟨-, cells, after⟩ := world.seedEdge_cases sound.wide sound.high edge s
    · rwa [failed]
    · rw [after]
      exact { sound with }
  | setCell c s =>
    show (world.setCell c s).2.Sound
    obtain ⟨e, failed⟩ | ⟨-, cells, after⟩ := world.setCell_cases c s
    · rwa [failed]
    · rw [after]
      exact { sound with }
  | step => exact sound.step
  | run max => exact run_keeps (fun _ => step) sound max

end Sound

/-! ## The rules of a world never change -/

theorem rules_step (world : World w h) : world.step.2.rules = world.rules := by
  obtain ⟨-, same⟩ | ⟨-, same⟩ | ⟨-, next, -, moved⟩ | ⟨-, -, e, scratch, failed⟩ :=
    world.step_cases
  · rw [same]
  · rw [same]
  · rw [moved]
    rfl
  · rw [failed]
    rfl

theorem Sound.rules_perform (sound : world.Sound) (op : Operation) :
    (op.perform world).2.rules = world.rules := by
  cases op with
  | setStrict strict => rfl
  | randomize words =>
    obtain ⟨cells, -, after⟩ := sound.randomize_eq words
    rw [Operation.perform, after]
    rfl
  | seedEdge edge s =>
    obtain ⟨e, same⟩ | ⟨-, cells, same⟩ := world.seedEdge_cases sound.wide sound.high edge s
    all_goals
      rw [Operation.perform, same]
      rfl
  | setCell c s =>
    obtain ⟨e, same⟩ | ⟨-, cells, same⟩ := world.setCell_cases c s
    all_goals
      rw [Operation.perform, same]
      rfl
  | step => exact world.rules_step
  | run max =>
    exact run_keeps (P := (·.rules = world.rules))
      (fun other same => other.rules_step.trans same) rfl max

end World

theorem Reachable.sound {world : World w h} (reachable : Reachable world) : world.Sound := by
  induction reachable with
  | new enough made => exact .of_new enough made
  | perform op _ ih => exact ih.perform op

/-- A rule file has one probability for each state, so that worlds are reachable under all rules
that are read. -/
theorem Reachable.of_parse {tolerance : Float} {text : String} {r : RuleSet} {world : World w h}
    (parsed : RuleSet.parse tolerance text = .ok r) (made : World.new w h r = .ok world) :
    Reachable world :=
  .new (RuleSet.isRead_of_parse parsed).length_probabilities.le made

/-! ## A forest of three trees -/

/-- Fire burns out, and a tree next to it catches fire. -/
def forestRules : RuleSet where
  states := [0, 1, 2]
  probabilities := [0.5, 0.25, 0.25]
  simpleRules := [⟨1, 0⟩]
  neighborRules := [⟨.atLeast, 1, 1, some 2, 1⟩]
  defaultRule := .var

def plot : World 3 1 where
  rules := forestRules
  sampler := ⟨[0.5, 0.75, 1]⟩
  cells := .replicate 0
  scratch := .replicate 0
  history := ⟨[0, 1, 2], #[]⟩
  iteration := 0
  status := .uninitialized
  seeded := false
  strict := false

def forest : World 3 1 :=
  { plot with
    cells := (Grid.replicate 2).set 1 0 1
    history := ⟨[0, 1, 2], #[[⟨0, 0⟩, ⟨1, 0⟩, ⟨2, 0⟩]]⟩
    status := .randomized }

theorem reachable_forest : Reachable forest := by
  have made : World.new 3 1 forestRules = .ok plot := by decide +kernel
  have drawn : ((Operation.randomize fun i => if i = 1 then 0xA000000000000000
    else 0xF000000000000000).perform
      plot).2 = forest := by decide +kernel
  rw [← drawn]
  exact .perform _ (.new (by decide) made)

end CellularAutomaton
