import CellularAutomaton.Proofs.Accounting
import CellularAutomaton.Proofs.Observation

/-!
# Starting over

Drawing the cells of a world makes it forget its past. All that is left of that are the rules with
the table for drawing, which no operation changes, and whether the world is strict. So the world
cannot be told from a new one with the same draws, neither at once nor by anything that is done with
both of them later.
-/

namespace CellularAutomaton

variable {w h : ℕ}

theorem Reachable.exists_new {world : World w h} (reachable : Reachable world) :
    ∃ fresh, World.new w h world.rules = .ok fresh ∧ fresh.sampler = world.sampler := by
  refine reachable.keeps
    (P := fun world => ∃ fresh, World.new w h world.rules = .ok fresh ∧
      fresh.sampler = world.sampler) ?_ ?_
  · intro r world made
    obtain ⟨-, -, sampler, -, rfl⟩ := World.new_eq_ok made
    exact ⟨_, made, rfl⟩
  · intro before after reachable change founded
    cases change with
    | setStrict strict => exact founded
    | randomize words =>
      obtain ⟨cells, -, drawn⟩ := reachable.sound.randomize_eq words
      rw [drawn]
      exact founded
    | edit status cells seeded => exact founded
    | advance active goes => exact founded
    | abandon active scratch => exact founded

namespace World

/-- What comes of drawing the cells depends on nothing but the rules, the table, the strictness and
the draws. -/
theorem Sound.visible_randomize {a b : World w h} (sound : a.Sound) (sound' : b.Sound)
    (rules : a.rules = b.rules) (sampler : a.sampler = b.sampler) (strict : a.strict = b.strict)
    (words : Random.Words) :
    visible (a.randomize words) = visible (b.randomize words) := by
  obtain ⟨cells, drawn, after⟩ := sound.randomize_eq words
  obtain ⟨cells', drawn', after'⟩ := sound'.randomize_eq words
  have same : cells = cells' := by
    ext x y
    have here := drawn x y
    rw [rules, sampler, drawn' x y] at here
    exact (Except.ok.inj here).symm
  rw [after, after', same]
  refine visible_eq_iff.2 ⟨rfl, ?_⟩
  simp only [observable, withScratch, rules, sampler, strict]

end World

/-- A world whose cells are drawn again looks like a new world with the same rules and draws that is
as strict, whatever has happened to it before. All that is asked of both worlds, and all that is
done with them afterwards, is answered in the same way. -/
theorem Reachable.randomize_starts_over {world : World w h} (reachable : Reachable world)
    (words : Random.Words) :
    ∃ fresh, World.new w h world.rules = .ok fresh ∧
      (world.randomize words).1 = .ok () ∧
      ((fresh.setStrict world.strict).randomize words).1 = .ok () ∧
      (world.randomize words).2.observable =
        ((fresh.setStrict world.strict).randomize words).2.observable ∧
      (world.randomize words).2.answers =
        ((fresh.setStrict world.strict).randomize words).2.answers ∧
      ∀ ops, Operation.observations (world.randomize words).2 ops =
        Operation.observations ((fresh.setStrict world.strict).randomize words).2 ops := by
  have sound := reachable.sound
  obtain ⟨fresh, made, table⟩ := reachable.exists_new
  obtain ⟨-, -, sampler, -, rfl⟩ := World.new_eq_ok made
  obtain rfl : sampler = world.sampler := table
  refine ⟨_, made, ?_⟩
  generalize same : World.setStrict _ world.strict = fresh
  have sound' : fresh.Sound := by
    rw [← same]
    exact ⟨sound.wide, sound.high, sound.samples, rfl, rfl, fun _ => rfl⟩
  obtain ⟨cells, -, drawn⟩ := sound.randomize_eq words
  have looks := World.visible_eq_iff.1
    (sound.visible_randomize sound' (by rw [← same]; rfl) (by rw [← same]; rfl)
      (by rw [← same]; rfl) words)
  have answer : (world.randomize words).1 = .ok () := congrArg Prod.fst drawn
  exact ⟨answer, looks.1.symm.trans answer, looks.2, World.answers_congr looks.2,
    Operation.observations_congr looks.2⟩

/-- A burning forest has been planted over and has come to rest, and it is strict now; after a
drawing it cannot be told from a new one. -/
theorem Reachable.randomize_starts_over_forest :
    let rested := Operation.performAll
      forest [.seedEdge .north 2, .step, .setStrict true, .run none]
    Reachable rested ∧ rested.status ≠ .uninitialized ∧ rested.seeded = true ∧
      ((plot.setStrict true).randomize fun _ => 0).1 = .ok () ∧
      (rested.randomize fun _ => 0).2.answers =
        ((plot.setStrict true).randomize fun _ => 0).2.answers ∧
      Operation.observations (rested.randomize fun _ => 0).2 [.seedEdge .west 7, .setCell ⟨1, 0⟩ 1,
        .run none] =
        Operation.observations ((plot.setStrict true).randomize fun _ => 0).2
          [.seedEdge .west 7, .setCell ⟨1, 0⟩ 1, .run none] := by
  intro rested
  have reachable : Reachable rested := Operation.reachable_performAll reachable_forest _
  have rules : rested.rules = forestRules := by decide +kernel
  have strict : rested.strict = true := by decide +kernel
  obtain ⟨fresh, made, -, done, -, answers, later⟩ := randomize_starts_over reachable fun _ => 0
  rw [strict] at done answers later
  have blank : World.new 3 1 forestRules = .ok plot := by decide +kernel
  obtain rfl : fresh = plot := by
    rw [rules, blank] at made
    exact (Except.ok.inj made).symm
  exact ⟨reachable, by decide +kernel, by decide +kernel, done, answers, later _⟩

end CellularAutomaton
