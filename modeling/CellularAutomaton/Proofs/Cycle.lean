import CellularAutomaton.Proofs.Endless

/-!
# Generations that come back

When the cells of a world come back to an earlier generation while the world is running, then the
generations in between follow each other for ever. All of them have been computed once, so that no
later step fails, and none of them goes to itself, so that the world never converges. Only drawing
new cells ends that.
-/

namespace CellularAutomaton

variable {w h : ℕ}

/-! ## Orbits that return -/

namespace RuleSet

variable {r : RuleSet} {strict : Bool} {g : Grid State w h} {p : ℕ}

theorem periodic_orbit (back : r.orbit strict g p = some g) :
    Function.Periodic (r.orbit strict g) p := by
  have returns : r.orbit strict g 0 = r.orbit strict g p := back.symm
  intro n
  rw [Nat.add_comm, ← orbit_add returns, Nat.zero_add]

theorem exists_orbit_of_back (positive : 0 < p) (back : r.orbit strict g p = some g) (n : ℕ) :
    ∃ c, r.orbit strict g n = some c := by
  rw [← (periodic_orbit back).map_mod_nat]
  exact exists_orbit_of_le (Nat.mod_lt n positive).le back

theorem Still.orbit_eq {k n : ℕ} (still : r.Still strict g k) (later : k ≤ n) :
    r.orbit strict g n = r.orbit strict g k := by
  obtain ⟨c, here, next⟩ := still
  induction later with
  | refl => rfl
  | step _ ih => rw [orbit, ih, here, Option.bind_some, ← orbit_succ here, next]

/-- If one generation of an orbit that returns goes to itself, then so do all of them. -/
theorem Still.of_back {k : ℕ} (still : r.Still strict g k) (positive : 0 < p)
    (back : r.orbit strict g p = some g) (j : ℕ) : r.Still strict g j := by
  have periodic := (periodic_orbit back).nsmul k
  have far : k ≤ k • p := Nat.le_mul_of_pos_right k positive
  obtain ⟨c, here, -⟩ := id still
  refine ⟨c, ?_, ?_⟩
  · rw [← periodic j, still.orbit_eq (by omega), here]
  · rw [← periodic (j + 1), still.orbit_eq (by omega), here]

end RuleSet

namespace World

variable {origin world next last : World w h} {p n m : ℕ} {ns : List ℕ}

/-- The cells of a world are the same again after so many steps, and are not the same all the
time. -/
structure Returns (origin : World w h) (p : ℕ) : Prop where
  positive : 0 < p
  back : origin.rules.orbit origin.strict origin.cells p = some origin.cells
  moves : ∃ k, ¬origin.Still k

theorem Returns.not_still (returns : origin.Returns p) (k : ℕ) : ¬origin.Still k := by
  obtain ⟨j, moves⟩ := returns.moves
  exact fun still => moves (RuleSet.Still.of_back still returns.positive returns.back j)

/-! ## Worlds on an orbit -/

/-- A world is at a generation after that of another one and goes on. -/
structure Follows (origin world : World w h) : Prop where
  rules : world.rules = origin.rules
  active : world.Active
  since : origin.iteration ≤ world.iteration
  cells : origin.rules.orbit origin.strict origin.cells (world.iteration - origin.iteration) =
    some world.cells

namespace Follows

theorem refl (active : origin.Active) : origin.Follows origin :=
  ⟨rfl, active, le_rfl, by rw [Nat.sub_self]; rfl⟩

theorem orbit_succ (here : origin.Follows world) (strict : world.strict = origin.strict) :
    origin.rules.orbit origin.strict origin.cells (world.iteration - origin.iteration + 1) =
      world.next? := by
  rw [RuleSet.orbit_succ here.cells, next?, here.rules, strict]

variable {after : Grid State w h}

theorem still_iff (here : origin.Follows world)
    (arrives : origin.rules.orbit origin.strict origin.cells
      (world.iteration - origin.iteration + 1) = some after) :
    origin.Still (world.iteration - origin.iteration) ↔ world.cells = after := by
  rw [Still, RuleSet.Still, here.cells, arrives]
  simp [eq_comm]

theorem advance (here : origin.Follows world)
    (arrives : origin.rules.orbit origin.strict origin.cells
      (world.iteration - origin.iteration + 1) = some after)
    (moved : world.cells ≠ after) :
    origin.Follows (world.advance after) ∧ (world.advance after).status = .running := by
  have running : (world.advance after).status = .running :=
    (world.advance_status after).resolve_left (mt advance_converged.1 moved)
  refine ⟨⟨here.rules, .inr running, Nat.le_succ_of_le here.since, ?_⟩, running⟩
  rw [← Nat.sub_add_comm here.since] at arrives
  exact arrives

/-- A walk that does not end in a converged world goes along the orbit, and moves. -/
theorem of_walks (here : origin.Follows world) (strict : world.strict = origin.strict)
    (walks : world.Walks ns last) (moving : last.status ≠ .converged) :
    origin.Follows last ∧ last.strict = origin.strict ∧ (ns ≠ [] → ∃ k, ¬origin.Still k) := by
  induction walks with
  | stay => exact ⟨here, strict, fun some => absurd rfl some⟩
  | @step world next last n ns first rest ih =>
    obtain ⟨status, -⟩ | ⟨after, goes, -, rfl⟩ := cases_of_step_ok first
    · exact absurd status here.active.not_converged
    · have arrives := (here.orbit_succ strict).trans goes
      have moved : world.cells ≠ after := mt advance_converged.2 (rest.moving moving)
      obtain ⟨there, strict', -⟩ := ih (here.advance arrives moved).1 strict moving
      exact ⟨there, strict', fun _ => ⟨_, mt (here.still_iff arrives).1 moved⟩⟩

/-! ## Worlds on an orbit that returns -/

variable (returns : origin.Returns p)
include returns

theorem exists_arrives (here : origin.Follows world) : ∃ after,
    origin.rules.orbit origin.strict origin.cells (world.iteration - origin.iteration + 1) =
      some after ∧
      world.cells ≠ after := by
  obtain ⟨after, arrives⟩ := RuleSet.exists_orbit_of_back returns.positive returns.back _
  exact ⟨after, arrives, mt (here.still_iff arrives).2 (returns.not_still _)⟩

/-- If the world has not been made more or less strict, then its next step succeeds. -/
theorem step_eq_ok (here : origin.Follows world) (strict : world.strict = origin.strict) :
    ∃ after, world.cells ≠ after ∧
      world.step = (.ok (world.cells.distance after), world.advance after) ∧
      origin.Follows (world.advance after) := by
  obtain ⟨after, arrives, moved⟩ := here.exists_arrives returns
  have goes : world.next? = some after := (here.orbit_succ strict).symm.trans arrives
  exact ⟨after, moved, step_of_next here.active goes, (here.advance arrives moved).1⟩

theorem step (here : origin.Follows world) :
    origin.Follows world.step.2 ∧ (world.status = .running → world.step.2.status = .running) := by
  obtain ⟨blank, -⟩ | ⟨status, -⟩ | ⟨-, after, goes, moved⟩ | ⟨-, -, e, scratch, failed⟩ :=
    world.step_cases
  · exact absurd blank here.active.begun
  · exact absurd status here.active.not_converged
  · obtain ⟨after', arrives, differ⟩ := here.exists_arrives returns
    have computed := RuleSet.orbit_succ here.cells
    rw [arrives, ← here.rules] at computed
    obtain rfl := RuleSet.globalMap_unique goes computed.symm
    obtain ⟨there, running⟩ := here.advance arrives differ
    rw [moved]
    exact ⟨there, fun _ => running⟩
  · rw [failed]
    exact ⟨{ here with }, id⟩

theorem walks (here : origin.Follows world) (strict : world.strict = origin.strict)
    (walks : world.Walks ns last) :
    origin.Follows last ∧ last.strict = origin.strict ∧
    last.iteration = world.iteration + ns.length := by
  induction walks with
  | stay => exact ⟨here, strict, rfl⟩
  | @step world next last n ns first rest ih =>
    obtain ⟨after, -, stepped, there⟩ := here.step_eq_ok returns strict
    obtain rfl : world.advance after = next := congrArg Prod.snd (stepped.symm.trans first)
    obtain ⟨further, strict', iteration⟩ := ih there strict
    exact ⟨further, strict', iteration.trans (Nat.succ_add_eq_add_succ _ _)⟩

theorem run (here : origin.Follows world) (strict : world.strict = origin.strict)
    (bound : world.iteration ≤ m) :
    ∃ last, world.run (some m) = (.ok last.snapshot, last) ∧ last.iteration = m ∧
      last.status ≠ .converged := by
  induction left : m - world.iteration generalizing world with
  | zero =>
    have reached : world.iteration = m := by omega
    have ended : world.goesOn (some m) = false := by simp [goesOn, reached]
    exact ⟨world, run_of_not_goesOn ended, reached, here.active.not_converged⟩
  | succ left ih =>
    have goes : world.goesOn (some m) = true :=
      goesOn_iff.2 ⟨here.active.not_converged, by rintro _ ⟨⟩; omega⟩
    obtain ⟨after, -, stepped, there⟩ := here.step_eq_ok returns strict
    have iteration : (world.advance after).iteration = world.iteration + 1 := rfl
    rw [run_of_step_ok goes stepped]
    exact ih there strict (by omega) (by omega)

theorem neverRests (here : origin.Follows world) (strict : world.strict = origin.strict) :
    world.NeverRests := by
  intro n
  induction n generalizing world with
  | zero => exact ⟨[], world, rfl, .stay world, here.active.not_converged⟩
  | succ n ih =>
    obtain ⟨after, -, stepped, there⟩ := here.step_eq_ok returns strict
    obtain ⟨ns, last, length, walks, moving⟩ := ih there strict
    exact ⟨_ :: ns, last, congrArg (· + 1) length, .step stepped walks, moving⟩

theorem perform (here : origin.Follows world) (sound : world.Sound)
    (running : world.status = .running) {op : Operation}
    (noDrawing : ∀ words, op ≠ .randomize words) :
    origin.Follows (op.perform world).2 ∧ (op.perform world).2.status = .running := by
  cases op with
  | setStrict strict => exact ⟨{ here with }, running⟩
  | randomize words => exact absurd rfl (noDrawing words)
  | seedEdge edge s =>
    obtain ⟨e, failed⟩ | ⟨status, -⟩ := world.seedEdge_cases sound.wide sound.high edge s
    · rw [Operation.perform, failed]
      exact ⟨here, running⟩
    · rw [running] at status
      cases status
  | setCell c s =>
    obtain ⟨e, failed⟩ | ⟨status, -⟩ := world.setCell_cases c s
    · rw [Operation.perform, failed]
      exact ⟨here, running⟩
    · rw [running] at status
      cases status
  | step => exact ⟨(here.step returns).1, (here.step returns).2 running⟩
  | run max =>
    have kept : ∀ other : World w h, origin.Follows other ∧ other.status = .running →
        origin.Follows other.step.2 ∧ other.step.2.status = .running :=
      fun other holds => ⟨(holds.1.step returns).1, (holds.1.step returns).2 holds.2⟩
    exact run_keeps kept ⟨here, running⟩ max

theorem performAll (here : origin.Follows world) (sound : world.Sound)
    (running : world.status = .running) {ops : List Operation}
    (noDrawing : ∀ words, .randomize words ∉ ops) :
    origin.Follows (Operation.performAll world ops) ∧
    (Operation.performAll world ops).status = .running := by
  induction ops generalizing world with
  | nil => exact ⟨here, running⟩
  | cons op ops ih =>
    have first : ∀ words, op ≠ .randomize words :=
      fun words same => noDrawing words (same ▸ List.mem_cons_self)
    obtain ⟨there, running'⟩ := here.perform returns sound running first
    exact ih there (sound.perform op) running' fun words later =>
      noDrawing words (List.mem_cons_of_mem _ later)

end Follows

/-- A world that goes through the generations of the other one again and again. As long as it is as
strict as that one, its steps succeed and change some cells, and runs only end at their limits. -/
structure Recurs (origin : World w h) (p : ℕ) (world : World w h) : Prop where
  active : world.Active
  cells : origin.rules.orbit origin.strict origin.cells ((world.iteration - origin.iteration) % p) =
    some world.cells
  step : world.strict = origin.strict → ∃ n, 0 < n ∧ world.step.1 = .ok n
  run : world.strict = origin.strict → ∀ m ≥ world.iteration, ∃ result,
    (world.run (some m)).1 = .ok result ∧ result.iterations = m ∧ result.endedNaturally = false
  endless : world.strict = origin.strict → (world.run none).1 = .error .endless

theorem Follows.recurs (here : origin.Follows world) (returns : origin.Returns p) :
    origin.Recurs p world := by
  refine ⟨here.active, ?_, ?_, ?_, ?_⟩
  · rw [(RuleSet.periodic_orbit returns.back).map_mod_nat, here.cells]
  · intro strict
    obtain ⟨after, moved, stepped, -⟩ := here.step_eq_ok returns strict
    exact ⟨_, Nat.pos_of_ne_zero (mt Grid.distance_eq_zero.1 moved), congrArg Prod.fst stepped⟩
  · intro strict m bound
    obtain ⟨last, ran, reached, moving⟩ := here.run returns strict bound
    exact ⟨last.snapshot, congrArg Prod.fst ran, reached, decide_eq_false moving⟩
  · exact fun strict => run_eq_endless_iff.2 ⟨rfl, here.neverRests returns strict⟩

theorem Walks.ne_nil (walks : world.Walks ns last) (later : world.iteration < last.iteration) :
    ns ≠ [] := by
  rintro rfl
  cases walks
  exact absurd later (lt_irrefl _)

/-- A walk that comes back to the cells with which it began, and does not converge, has found a
period. -/
theorem Walks.returns (walks : world.Walks ns last) (later : world.iteration < last.iteration)
    (same : last.cells = world.cells) (moving : last.status ≠ .converged) :
    world.Follows last ∧ last.strict = world.strict ∧
    world.Returns (last.iteration - world.iteration) := by
  have some := walks.ne_nil later
  obtain ⟨there, strict, moves⟩ :=
    (Follows.refl (walks.active some moving)).of_walks rfl walks moving
  exact ⟨there, strict, Nat.sub_pos_of_lt later, by rw [there.cells, same], moves some⟩

end World

/-- If the cells of a running world are what they were some steps before, then the world goes
through the generations in between for ever. The number of steps, modulo the period, says which of
them it is at; no step fails any more, unless the world is made more strict, and only drawing new
cells could let it converge. -/
theorem Reachable.repetition_never_converges {earlier later : World w h}
    (reachable : Reachable earlier) {ns : List ℕ} (walks : earlier.Walks ns later)
    (since : earlier.iteration < later.iteration) (same : later.cells = earlier.cells)
    (status : later.status = .running) :
    later.strict = earlier.strict ∧
    (∀ ops : List Operation, (∀ words, .randomize words ∉ ops) →
      (Operation.performAll later ops).status = .running ∧
      earlier.Recurs (later.iteration - earlier.iteration) (Operation.performAll later ops)) ∧
    ∀ ms world, earlier.Walks ms world →
      world.strict = earlier.strict ∧ world.iteration = earlier.iteration + ms.length ∧
      earlier.Recurs (later.iteration - earlier.iteration) world := by
  have moving : later.status ≠ .converged := by simp [status]
  obtain ⟨there, strict, returns⟩ := walks.returns since same moving
  have sound : later.Sound := walks.keeps (fun _ => World.Sound.step) reachable.sound
  refine ⟨strict, ?_, ?_⟩
  · intro ops noDrawing
    obtain ⟨last, running⟩ := there.performAll returns sound status noDrawing
    exact ⟨running, last.recurs returns⟩
  · intro ms world walks'
    have active := walks.active (walks.ne_nil since) moving
    obtain ⟨last, strict', iteration⟩ := (World.Follows.refl active).walks returns rfl walks'
    exact ⟨strict', iteration, last.recurs returns⟩

def blinking : RuleSet where
  states := [0, 1]
  probabilities := [0.5, 0.5]
  simpleRules := []
  neighborRules := []
  defaultRule := .binary .sub (.literal 1) .var

def lamp : World 1 1 where
  rules := blinking
  sampler := ⟨[0.5, 1]⟩
  cells := .replicate 0
  scratch := .replicate 0
  history := ⟨[0, 1], #[[⟨1, 0⟩, ⟨0, 0⟩]]⟩
  iteration := 0
  status := .randomized
  seeded := false
  strict := false

theorem reachable_lamp : Reachable lamp := by
  have made : World.new 1 1 blinking = .ok
      { lamp with history := ⟨[0, 1], #[]⟩, status := .uninitialized } := by decide +kernel
  have drawn : ((Operation.randomize fun _ => 0).perform
      { lamp with history := ⟨[0, 1], #[]⟩, status := .uninitialized }).2 = lamp := by
        decide +kernel
  rw [← drawn]
  exact .perform _ (.new (by decide) made)

/-- After two steps the lamp is as it was, and the cells after 100 steps, some of them under strict
rules, are those after none. -/
theorem Reachable.repetition_never_converges_lamp :
    ∃ later, Reachable lamp ∧ lamp.Walks [1, 1] later ∧ lamp.iteration < later.iteration ∧
      later.cells = lamp.cells ∧ later.status = .running ∧
      (Operation.performAll later [.run (some 50), .setStrict true, .run (some 100)]).iteration =
        100 ∧
      (Operation.performAll later [.run (some 50), .setStrict true, .run (some 100)]).cells =
        lamp.cells ∧
      (∃ result, (later.run (some 1000000)).1 = .ok result ∧ result.iterations = 1000000 ∧
        result.endedNaturally = false) ∧
      (later.run none).1 = .error .endless := by
  have walks : lamp.Walks [1, 1] lamp.step.2.step.2 :=
    .of_answer (by decide +kernel) (.of_answer (by decide +kernel) (.stay _))
  have status : lamp.step.2.step.2.status = .running := by decide +kernel
  have since : lamp.iteration < lamp.step.2.step.2.iteration := by decide +kernel
  have same : lamp.step.2.step.2.cells = lamp.cells := by decide +kernel
  obtain ⟨strict, forever, -⟩ := repetition_never_converges reachable_lamp walks since same status
  have iteration : (Operation.performAll lamp.step.2.step.2
      [.run (some 50), .setStrict true, .run (some 100)]).iteration = 100 := by decide +kernel
  have cells := (forever [.run (some 50), .setStrict true, .run (some 100)] (by simp)).2.cells
  rw [iteration] at cells
  have now := (forever [] (by simp)).2
  exact ⟨_, reachable_lamp, walks, since, same, status, iteration, (Option.some.inj cells).symm,
    now.run strict 1000000 (by decide +kernel), now.endless strict⟩

end CellularAutomaton
