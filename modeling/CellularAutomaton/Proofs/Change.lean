import CellularAutomaton.Proofs.Reachable

/-!
# The changes that operations make

Whatever operation is performed on a world, and whether it succeeds or fails, it makes changes of
five kinds only. So what holds of new worlds and is kept by each kind of change holds of every
reachable world.
-/

namespace CellularAutomaton

variable {w h : ℕ}

/-- One change of a world. -/
inductive World.Changes : World w h → World w h → Prop
  | setStrict (world : World w h) (strict : Bool) : Changes world (world.setStrict strict)
  | randomize (world : World w h) (words : Random.Words) : Changes world (world.randomize words).2
  | edit {world : World w h} (status : world.status = .randomized) (cells : Grid State w h)
      (seeded : Bool) :
      Changes world { world with cells, seeded }
  | advance {world : World w h} (active : world.Active) {next : Grid State w h}
      (goes : world.next? = some next) : Changes world (world.advance next)
  | abandon {world : World w h} (active : world.Active) (scratch : Grid State w h) :
      Changes world (world.withScratch scratch)

namespace World

theorem step_keeps {P : World w h → Prop} {world : World w h}
    (kept : ∀ after, world.Changes after → P after) (holds : P world) : P world.step.2 := by
  obtain ⟨-, same⟩ | ⟨-, same⟩ | ⟨active, next, goes, moved⟩ | ⟨active, -, e, scratch, failed⟩ :=
    world.step_cases
  · rwa [same]
  · rwa [same]
  · rw [moved]
    exact kept _ (.advance active goes)
  · rw [failed]
    exact kept _ (.abandon active scratch)

end World

namespace Reachable

/-- What holds of new worlds and is kept by every change holds of all reachable worlds. -/
theorem keeps {P : World w h → Prop} (made : ∀ r world, World.new w h r = .ok world → P world)
    (kept : ∀ before after, Reachable before → before.Changes after → P before → P after)
    {world : World w h} (reachable : Reachable world) : P world := by
  induction reachable with
  | new enough made' => exact made _ _ made'
  | @perform world op before holds =>
    have change : ∀ after, world.Changes after → P after :=
      fun after change => kept _ _ before change holds
    cases op with
    | setStrict strict => exact change _ (.setStrict world strict)
    | randomize words => exact change _ (.randomize world words)
    | seedEdge edge s =>
      show P (world.seedEdge edge s).2
      obtain ⟨e, failed⟩ | ⟨status, cells, done⟩ :=
        world.seedEdge_cases before.sound.wide before.sound.high edge s
      · rwa [failed]
      · rw [done]
        exact change _ (.edit status cells true)
    | setCell c s =>
      show P (world.setCell c s).2
      obtain ⟨e, failed⟩ | ⟨status, cells, done⟩ := world.setCell_cases c s
      · rwa [failed]
      · rw [done]
        exact change _ (.edit status cells world.seeded)
    | step => exact World.step_keeps change holds
    | run max =>
      -- The worlds in the middle of a run are reachable by single steps.
      have kept' : ∀ other : World w h, Reachable other ∧ P other →
          Reachable other.step.2 ∧ P other.step.2 :=
        fun other holds => ⟨.perform .step holds.1,
          World.step_keeps (fun after change => kept _ _ holds.1 change holds.2) holds.2⟩
      exact (World.run_keeps kept' ⟨before, holds⟩ max).2

end Reachable

end CellularAutomaton
