import CellularAutomaton.Proofs.Symmetry
import CellularAutomaton.Proofs.Walk

/-!
# Worlds that are images of each other

If one world is the image of another one under a symmetry, with the same past, then a step keeps it
so: it succeeds in both worlds or in none, and as many cells change. So both worlds stay images of
each other along all their steps, and runs end with the same results, but for the width and the
height.
-/

namespace CellularAutomaton

variable {w h w' h' : ℕ}

namespace Symmetry

/-- The second world shows the image of the first one, and both have the same rules and the same
past. -/
structure Relates (s : Symmetry w h w' h') (world : World w h) (image : World w' h') : Prop where
  rules : image.rules = world.rules
  strict : image.strict = world.strict
  cells : image.cells = s.apply world.cells
  history : image.history = world.history
  iteration : image.iteration = world.iteration
  status : image.status = world.status

namespace Relates

variable {s : Symmetry w h w' h'} {world : World w h} {image : World w' h'}

/-! ## One step -/

theorem next? (related : s.Relates world image) : image.next? = world.next?.map s.apply := by
  rw [World.next?, World.next?, related.rules, related.strict, related.cells, s.globalMap_apply]

theorem distance (related : s.Relates world image) (next : Grid State w h) :
    image.cells.distance (s.apply next) = world.cells.distance next := by
  rw [related.cells, s.distance_apply]

theorem history_advance (related : s.Relates world image) (sound : world.Sound)
    (active : world.Active) (next : Grid State w h) :
    (image.advance (s.apply next)).history = (world.advance next).history := by
  have wide := sound.wide
  have high := sound.high
  have format := s.dimensions
  calc
    _ = world.history.recordAll world.history.rounds.size (s.apply world.cells) (s.apply next) := by
      rw [sound.rounds_size active.begun, ← related.history, ← related.iteration, ← related.cells]
      rfl
    _ = ⟨world.history.states,
        world.history.rounds.push (world.history.states.map (world.cells.flow next))⟩ := by
      rw [History.recordAll_next _ sound.distinct (by omega) (by omega), s.flow_apply]
    _ = _ := (sound.history_advance active next).symm

theorem advance (related : s.Relates world image) (sound : world.Sound) (active : world.Active)
    (next : Grid State w h) : s.Relates (world.advance next) (image.advance (s.apply next)) where
  rules := related.rules
  strict := related.strict
  cells := rfl
  history := related.history_advance sound active next
  iteration := congrArg (· + 1) related.iteration
  status := by
    unfold World.advance
    dsimp only
    rw [related.distance]

theorem step (related : s.Relates world image) (sound : world.Sound) :
    (∀ n, world.step.1 = .ok n ↔ image.step.1 = .ok n) ∧ s.Relates world.step.2 image.step.2 := by
  obtain ⟨status, same⟩ | ⟨status, same⟩ | ⟨active, next, defined, moved⟩ |
    ⟨active, undefined, e, scratch, failed⟩ := world.step_cases
  · have same' : image.step = (.error .notRandomized, image) := by
      rw [World.step, related.status, status]
    rw [same, same']
    exact ⟨by simp, related⟩
  · have same' : image.step = (.ok 0, image) := by rw [World.step, related.status, status]
    rw [same, same']
    exact ⟨fun _ => Iff.rfl, related⟩
  · have active' : image.Active := by rwa [World.Active, related.status]
    have defined' : image.next? = some (s.apply next) := by
      rw [related.next?, defined, Option.map_some]
    rw [moved, World.step_of_next active' defined', related.distance]
    exact ⟨fun _ => Iff.rfl, related.advance sound active next⟩
  · have active' : image.Active := by rwa [World.Active, related.status]
    have undefined' : image.next? = none := by rw [related.next?, undefined, Option.map_none]
    obtain ⟨e', -, scratch', failed'⟩ := World.step_of_next_eq_none active' undefined'
    rw [failed, failed']
    exact ⟨by simp, { related with }⟩

/-! ## Many steps -/

theorem walks (related : s.Relates world image) (sound : world.Sound) {ns : List ℕ}
    {last : World w h} (walks : world.Walks ns last) :
    ∃ last', image.Walks ns last' ∧ s.Relates last last' := by
  have follows : ∀ (a : World w h) (b : World w' h'), a.Sound ∧ s.Relates a b → ∀ n next,
      a.step = (.ok n, next) → ∃ next', b.step = (.ok n, next') ∧ next.Sound ∧
        s.Relates next next' := by
    rintro a b ⟨sound, related⟩ n next stepped
    obtain ⟨agree, after⟩ := related.step sound
    have sound' := sound.step
    rw [stepped] at agree after sound'
    exact ⟨b.step.2, Prod.ext ((agree n).1 rfl) rfl, sound', after⟩
  obtain ⟨last', walks', -, related'⟩ := walks.simulate follows ⟨sound, related⟩
  exact ⟨last', walks', related'⟩

theorem walks_back (related : s.Relates world image) (sound : world.Sound) {ns : List ℕ}
    {last' : World w' h'} (walks : image.Walks ns last') :
    ∃ last, world.Walks ns last ∧ s.Relates last last' := by
  have follows : ∀ (b : World w' h') (a : World w h), a.Sound ∧ s.Relates a b → ∀ n next',
      b.step = (.ok n, next') → ∃ next, a.step = (.ok n, next) ∧ next.Sound ∧
        s.Relates next next' := by
    rintro b a ⟨sound, related⟩ n next' stepped
    obtain ⟨agree, after⟩ := related.step sound
    rw [stepped] at agree after
    exact ⟨a.step.2, Prod.ext ((agree n).2 rfl) rfl, sound.step, after⟩
  obtain ⟨last, walks', -, related'⟩ := walks.simulate follows ⟨sound, related⟩
  exact ⟨last, walks', related'⟩

theorem goesOn (related : s.Relates world image) (max : Option ℕ) :
    image.goesOn max = world.goesOn max := by
  rw [World.goesOn, World.goesOn, related.status, related.iteration]

theorem steps (related : s.Relates world image) (sound : world.Sound) (max : Option ℕ) (fuel : ℕ) :
    ((world.steps max fuel).1 = .ok () ↔ (image.steps max fuel).1 = .ok ()) ∧
      s.Relates (world.steps max fuel).2 (image.steps max fuel).2 := by
  induction fuel generalizing world image with
  | zero => exact ⟨Iff.rfl, related⟩
  | succ fuel ih =>
    cases goes : world.goesOn max with
    | false =>
      have goes' := (related.goesOn max).trans goes
      rw [World.steps_of_not_goesOn goes, World.steps_of_not_goesOn goes']
      exact ⟨Iff.rfl, related⟩
    | true =>
      have goes' := (related.goesOn max).trans goes
      obtain ⟨agree, after⟩ := related.step sound
      have sound' := sound.step
      cases stepped : world.step with | mk answer next =>
      cases stepped' : image.step with | mk answer' next' =>
      rw [stepped, stepped'] at agree after
      rw [stepped] at sound'
      cases answer with
      | ok n =>
        obtain rfl : answer' = .ok n := (agree n).1 rfl
        rw [World.steps_of_step_ok goes stepped, World.steps_of_step_ok goes' stepped']
        exact ih after sound'
      | error e =>
        cases answer' with
        | ok n => cases (agree n).2 rfl
        | error e' =>
          rw [World.steps_of_step_error goes stepped, World.steps_of_step_error goes' stepped']
          exact ⟨by simp, after⟩

/-! ## Results -/

theorem counts (related : s.Relates world image) : image.counts = world.counts := by
  by_cases blank : world.status = .uninitialized
  · rw [World.counts, World.counts, if_pos (related.status.trans blank), if_pos blank,
      related.rules]
  · have begun : image.status ≠ .uninitialized := by rwa [related.status]
    have histogram := World.isHistogram_counts begun
    rw [related.rules] at histogram
    exact histogram.unique (World.isHistogram_counts blank) fun t =>
      by rw [related.cells, s.number_apply]

theorem snapshot (related : s.Relates world image) :
    image.snapshot = { world.snapshot with width := w', height := h' } := by
  simp only [World.snapshot, RunResult.ofWorld, related.iteration, related.counts, related.rules,
    related.history, related.status]

theorem remaining (related : s.Relates world image) (max : Option ℕ) :
    image.remaining max = world.remaining max := by
  cases max with
  | some m => rw [World.remaining, World.remaining, related.iteration]
  | none =>
    have area : 32 * w' * h' = 32 * w * h := by
      obtain ⟨rfl, rfl⟩ | ⟨rfl, rfl⟩ := s.dimensions
      · rfl
      · exact Nat.mul_right_comm _ _ _
    rw [World.remaining, World.remaining, World.generations, World.generations, area]

theorem run (related : s.Relates world image) (sound : world.Sound) (max : Option ℕ) :
    ((∃ result, (world.run max).1 = .ok result) ↔ ∃ result, (image.run max).1 = .ok result) ∧
      (∀ result, (world.run max).1 = .ok result →
        (image.run max).1 = .ok { result with width := w', height := h' }) ∧
      ((world.run max).1 = .error .endless ↔ (image.run max).1 = .error .endless) ∧
      s.Relates (world.run max).2 (image.run max).2 := by
  obtain ⟨agree, stepped⟩ := related.steps sound max (world.remaining max)
  have after : s.Relates (world.run max).2 (image.run max).2 := by
    rwa [World.run_snd, World.run_snd, related.remaining]
  have goes := after.goesOn max
  refine ⟨?_, ?_, ?_, after⟩
  · simp only [World.run_eq_ok_iff, related.remaining, agree, goes, exists_and_left]
    exact and_congr_right fun _ => and_congr_right fun _ => by simp
  · intro result answer
    obtain ⟨done, ended, rfl⟩ := World.run_eq_ok_iff.1 answer
    rw [← related.remaining] at agree
    exact World.run_eq_ok_iff.2
      ⟨by rw [related.remaining] at agree ⊢; exact agree.1 done, goes.trans ended,
        after.snapshot.symm⟩
  · rw [World.run_eq_endless_iff_goesOn, World.run_eq_endless_iff_goesOn, related.remaining,
      agree, goes]

end Relates

/-- Steps and runs go the same way in a world and in its image under a symmetry: both succeed or
both fail, and what they tell differs in the width and the height only. -/
theorem commutes_with_steps {world : World w h} (reachable : Reachable world)
    (s : Symmetry w h w' h') {image : World w' h'} (related : s.Relates world image) :
    ((∀ n, world.step.1 = .ok n ↔ image.step.1 = .ok n) ∧ s.Relates world.step.2 image.step.2) ∧
    (∀ ns last, world.Walks ns last → ∃ last', image.Walks ns last' ∧ s.Relates last last' ∧
      last'.snapshot = { last.snapshot with width := w', height := h' }) ∧
    (∀ ns last', image.Walks ns last' → ∃ last, world.Walks ns last ∧ s.Relates last last') ∧
    ∀ max,
      ((∃ result, (world.run max).1 = .ok result) ↔ ∃ result, (image.run max).1 = .ok result) ∧
      (∀ result, (world.run max).1 = .ok result →
        (image.run max).1 = .ok { result with width := w', height := h' }) ∧
      ((world.run max).1 = .error .endless ↔ (image.run max).1 = .error .endless) ∧
      s.Relates (world.run max).2 (image.run max).2 := by
  have sound := reachable.sound
  refine ⟨related.step sound, ?_, fun ns last' => related.walks_back sound, related.run sound⟩
  intro ns last walks
  obtain ⟨last', walks', related'⟩ := related.walks sound walks
  exact ⟨last', walks', related', related'.snapshot⟩

def clearing : World 3 1 := (forest.setCell ⟨0, 0⟩ 0).2

def grove : World 1 3 where
  rules := forestRules
  sampler := ⟨[1]⟩
  cells := ⟨#v[2, 1, 0]⟩
  scratch := ⟨#v[5, 0, 3]⟩
  history := forest.history
  iteration := 0
  status := .randomized
  seeded := true
  strict := false

/-- In the row and in the column the fire spreads to one tree and then burns out. -/
theorem commutes_with_steps_grove :
    Reachable clearing ∧ ((mirror 3 1).comp (transpose 3 1)).Relates clearing grove ∧
      clearing.step.1 = .ok 2 ∧ grove.step.1 = .ok 2 ∧ grove.step.2.cells = ⟨#v[1, 0, 0]⟩ ∧
      (∃ last, grove.Walks [2, 1, 0] last) ∧
      ∃ result, (clearing.run none).1 = .ok result ∧ result.iterations = 3 ∧
        (grove.run none).1 = .ok { result with width := 1, height := 3 } := by
  have reachable : Reachable clearing := .perform (.setCell ⟨0, 0⟩ 0) reachable_forest
  have related : ((mirror 3 1).comp (transpose 3 1)).Relates clearing grove :=
    ⟨rfl, rfl, by decide +kernel, rfl, rfl, rfl⟩
  obtain ⟨⟨steps, -⟩, walks, -, runs⟩ := commutes_with_steps reachable _ related
  have answer : clearing.step.1 = .ok 2 := by decide +kernel
  have result : (clearing.run none).1 = .ok (clearing.run none).2.snapshot := by decide +kernel
  have walk : clearing.Walks [2, 1, 0] _ := .step rfl (.step rfl (.step rfl (.stay _)))
  obtain ⟨last, walk', -⟩ := walks _ _ walk
  exact ⟨reachable, related, answer, (steps 2).1 answer, by decide +kernel,
    ⟨last, walk'⟩, _, result, by decide +kernel, (runs none).2.1 _ result⟩

end Symmetry

end CellularAutomaton
