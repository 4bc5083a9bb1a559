import CellularAutomaton.Proofs.Counts
import CellularAutomaton.Proofs.Orbit
import CellularAutomaton.Proofs.Walk
import Mathlib

/-!
# What a run computes

A run from a world that has just been set up goes along the orbit of its cells. It ends at the
generation after the first one that goes to itself, at the limit, or with the first generation that
has no next one. A run without a limit comes to the same end as all runs with limits that are large
enough.
-/

namespace CellularAutomaton

variable {w h : ℕ}

namespace World

/-- A world is at the generation `n` of another one that was set up. Only the last step may have
changed nothing, and then the world has converged. -/
structure At (origin world : World w h) (n : ℕ) : Prop where
  sound : world.Sound
  rules : world.rules = origin.rules
  strict : world.strict = origin.strict
  iteration : world.iteration = n
  cells : origin.rules.orbit origin.strict origin.cells n = some world.cells
  begun : world.status ≠ .uninitialized
  converged : world.status = .converged ↔
    ∃ k, n = k + 1 ∧ origin.rules.Still origin.strict origin.cells k
  moved : ∀ k, k + 1 < n → ¬origin.rules.Still origin.strict origin.cells k

variable {origin world : World w h} {n : ℕ}

theorem At.start (sound : origin.Sound) (status : origin.status = .randomized) :
    origin.At origin 0 where
  sound := sound
  rules := rfl
  strict := rfl
  iteration := sound.begins (.inr status)
  cells := rfl
  begun := by simp [status]
  converged := by simp [status]
  moved := by simp

namespace At

theorem next (here : origin.At world n) :
    origin.rules.orbit origin.strict origin.cells (n + 1) = world.next? := by
  rw [RuleSet.orbit_succ here.cells, next?, here.rules, here.strict]

theorem not_still (here : origin.At world n) (moving : world.status ≠ .converged) {k : ℕ}
    (before : k < n) :
    ¬origin.rules.Still origin.strict origin.cells k := by
  rcases Nat.lt_or_ge (k + 1) n with earlier | last
  · exact here.moved k earlier
  · intro still
    exact moving (here.converged.2 ⟨k, by omega, still⟩)

theorem advance (here : origin.At world n) (active : world.Active) {next : Grid State w h}
    (goes : world.next? = some next) : origin.At (world.advance next) (n + 1) := by
  have arrived : origin.rules.orbit origin.strict origin.cells (n + 1) = some next := by
    rw [here.next, goes]
  have still : origin.rules.Still origin.strict origin.cells n ↔ world.cells = next := by
    rw [RuleSet.Still, here.cells, arrived]
    simp [eq_comm]
  refine
    { sound := here.sound.advance active next
      rules := here.rules
      strict := here.strict
      iteration := congrArg (· + 1) here.iteration
      cells := arrived
      begun := world.advance_begun next
      converged := ?_
      moved := fun k before => here.not_still active.not_converged (Nat.lt_of_succ_lt_succ before) }
  rw [advance_converged, ← still]
  constructor
  · intro stands
    exact ⟨n, rfl, stands⟩
  · rintro ⟨k, same, stands⟩
    cases same
    exact stands

theorem withScratch (here : origin.At world n) (scratch : Grid State w h) :
    origin.At (world.withScratch scratch) n :=
  { here with sound := { here.sound with } }

theorem step (here : origin.At world n) (moving : world.status ≠ .converged) :
    (∃ k, world.step.1 = .ok k ∧ origin.At world.step.2 (n + 1)) ∨
    (∃ e, world.step.1 = .error e) ∧ origin.At world.step.2 n ∧ world.step.2.status ≠ .converged ∧
      origin.rules.Fails origin.strict origin.cells n := by
  obtain ⟨blank, -⟩ | ⟨status, -⟩ | ⟨active, next, goes, moved⟩ |
    ⟨-, nowhere, e, scratch, failed⟩ :=
    world.step_cases
  · exact absurd blank here.begun
  · exact absurd status moving
  · rw [moved]
    exact .inl ⟨_, rfl, here.advance active goes⟩
  · rw [failed]
    exact .inr ⟨⟨e, rfl⟩, here.withScratch scratch, moving, ⟨_, here.cells⟩,
      here.next.trans nowhere⟩

theorem steps (here : origin.At world n) (max : Option ℕ) (fuel : ℕ) :
    ∃ last, n ≤ last ∧ last ≤ n + fuel ∧ origin.At (world.steps max fuel).2 last ∧
      (∀ m, max = some m → n ≤ m → last ≤ m) ∧
      ((world.steps max fuel).1 = .ok () ∧
          ((world.steps max fuel).2.goesOn max = false ∨ last = n + fuel) ∨
        (∃ e, (world.steps max fuel).1 = .error e) ∧ (world.steps max fuel).2.goesOn max = true ∧
          origin.rules.Fails origin.strict origin.cells last) := by
  induction fuel generalizing world n with
  | zero => exact ⟨n, le_rfl, le_rfl, here, fun _ _ le => le, .inl ⟨rfl, .inr rfl⟩⟩
  | succ fuel ih =>
    cases goes : world.goesOn max with
    | false =>
      rw [steps_of_not_goesOn goes]
      exact ⟨n, le_rfl, by omega, here, fun _ _ le => le, .inl ⟨rfl, .inl goes⟩⟩
    | true =>
      obtain ⟨moving, below⟩ := goesOn_iff.1 goes
      rw [here.iteration] at below
      rcases here.step moving with ⟨k, answer, after⟩ | ⟨⟨e, answer⟩, after, still, fails⟩
      · obtain ⟨last, lower, upper, there, limit, ends⟩ := ih after
        rw [Nat.add_right_comm] at ends
        rw [steps_of_step_ok goes (Prod.ext answer rfl)]
        exact ⟨last, by omega, by omega, there,
          fun m given _ => limit m given (below m given), ends⟩
      · have goes' : world.step.2.goesOn max = true :=
          goesOn_iff.2 ⟨still, by rw [after.iteration]; exact below⟩
        rw [steps_of_step_error goes (Prod.ext answer rfl)]
        exact ⟨n, le_rfl, by omega, after, fun _ _ le => le, .inr ⟨⟨e, rfl⟩, goes', fails⟩⟩

end At

/-- Where a run with a limit leads: it converges or reaches the limit, unless a step fails. -/
theorem Sound.run_at (sound : origin.Sound) (status : origin.status = .randomized) (m : ℕ) :
    ∃ n ≤ m, origin.At (origin.run (some m)).2 n ∧
      ((origin.run (some m)).1 = .ok (origin.run (some m)).2.snapshot ∧
          ((origin.run (some m)).2.status = .converged ∨ n = m) ∨
        (∃ e, (origin.run (some m)).1 = .error (.failure e)) ∧
          (origin.run (some m)).2.status ≠ .converged ∧ n < m ∧
          origin.rules.Fails origin.strict origin.cells n) := by
  have start := At.start sound status
  obtain ⟨n, -, -, here, limit, ends⟩ := start.steps (some m) (origin.remaining (some m))
  rw [run_snd]
  refine ⟨n, limit m rfl (Nat.zero_le m), here, ?_⟩
  rcases ends with ⟨answer, -⟩ | ⟨⟨e, answer⟩, goes, fails⟩
  · have ended := steps_some_ended (by rw [remaining]; omega) answer
    refine .inl ⟨congrArg Prod.fst (run_of_steps_ended (Prod.ext answer rfl) ended), ?_⟩
    by_cases converged : (origin.steps (some m) (origin.remaining (some m))).2.status = .converged
    · exact .inl converged
    · refine .inr (Nat.le_antisymm (limit m rfl (Nat.zero_le m)) ?_)
      simpa [goesOn, converged, here.iteration] using ended
  · simp only [goesOn, Bool.and_eq_true, decide_eq_true_eq, Option.all_some, here.iteration] at goes
    have failed := congrArg Prod.fst (run_of_steps_error (Prod.ext answer rfl))
    exact .inr ⟨⟨e, failed⟩, goes.1, goes.2, fails⟩

namespace At

variable {m : ℕ}

theorem le_of_still (here : origin.At world n) (moving : world.status ≠ .converged) {k : ℕ}
    (still : origin.rules.Still origin.strict origin.cells k) : n ≤ k := by
  by_contra before
  exact here.not_still moving (Nat.lt_of_not_ge before) still

/-- A world that has converged is one step behind the first generation that goes to itself. -/
theorem isLeast (here : origin.At world n) (converged : world.status = .converged) :
    ∃ k, n = k + 1 ∧ IsLeast {k | origin.rules.Still origin.strict origin.cells k} k := by
  obtain ⟨k, rfl, still⟩ := here.converged.1 converged
  refine ⟨k, rfl, still, ?_⟩
  intro other stands
  by_contra earlier
  exact here.moved other (by omega) stands

theorem eq_min (here : origin.At world n) (within : n ≤ m)
    (ended : world.status = .converged ∨ n = m) {k : ℕ}
    (least : IsLeast {k | origin.rules.Still origin.strict origin.cells k} k) :
    n = min m (k + 1) := by
  by_cases converged : world.status = .converged
  · obtain ⟨k', rfl, least'⟩ := here.isLeast converged
    rw [least.unique least', Nat.min_eq_right within]
  · have before := here.le_of_still converged least.1
    have limit := ended.resolve_left converged
    omega

theorem eq_of_never (here : origin.At world n) (ended : world.status = .converged ∨ n = m)
    (never : ¬∃ k, origin.rules.Still origin.strict origin.cells k) : n = m := by
  apply ended.resolve_left
  intro converged
  obtain ⟨k, -, least⟩ := here.isLeast converged
  exact never ⟨k, least.1⟩

theorem converged_iff (here : origin.At world n) (within : n ≤ m)
    (ended : world.status = .converged ∨ n = m) :
    world.status = .converged ↔
      ∃ k, IsLeast {k | origin.rules.Still origin.strict origin.cells k} k ∧ k + 1 ≤ m := by
  constructor
  · intro converged
    obtain ⟨k, rfl, least⟩ := here.isLeast converged
    exact ⟨k, least, within⟩
  · rintro ⟨k, least, bound⟩
    by_contra converged
    have before := here.le_of_still converged least.1
    have limit := ended.resolve_left converged
    omega

/-- A world does not get to a limit behind the last generation, unless it converges before. -/
theorem not_ended (here : origin.At world n) {j : ℕ} (bound : j < m)
    (fails : origin.rules.Fails origin.strict origin.cells j)
    (moving : ∀ i < j, ¬origin.rules.Still origin.strict origin.cells i) :
    ¬(world.status = .converged ∨ n = m) := by
  have early := fails.le_of_orbit here.cells
  rintro (converged | limit)
  · obtain ⟨k, rfl, least⟩ := here.isLeast converged
    exact moving k early least.1
  · omega

end At

namespace Sound

variable {m : ℕ}

theorem run_eq_ok (sound : origin.Sound) (status : origin.status = .randomized) {result : RunResult}
    (answer : (origin.run (some m)).1 = .ok result) :
    result = (origin.run (some m)).2.snapshot ∧ result.iterations ≤ m ∧
      origin.At (origin.run (some m)).2 result.iterations ∧
      ((origin.run (some m)).2.status = .converged ∨ result.iterations = m) := by
  obtain ⟨n, within, here, ⟨answer', ended⟩ | ⟨⟨e, failed⟩, -⟩⟩ := sound.run_at status m
  · rw [answer'] at answer
    cases answer
    have iterations : (origin.run (some m)).2.snapshot.iterations = n := here.iteration
    rw [iterations]
    exact ⟨rfl, within, here, ended⟩
  · rw [failed] at answer
    cases answer

theorem run_fails_iff (sound : origin.Sound) (status : origin.status = .randomized) (m : ℕ) :
    (∃ e, (origin.run (some m)).1 = .error (.failure e)) ↔
      ∃ j < m, origin.rules.Fails origin.strict origin.cells j ∧
        ∀ i < j, ¬origin.rules.Still origin.strict origin.cells i := by
  obtain ⟨n, -, here, ends⟩ := sound.run_at status m
  constructor
  · rintro ⟨e, failed⟩
    rcases ends with ⟨answer, -⟩ | ⟨-, moving, bound, fails⟩
    · rw [failed] at answer
      cases answer
    · exact ⟨n, bound, fails, fun i before => here.not_still moving before⟩
  · rintro ⟨j, bound, fails, moving⟩
    rcases ends with ⟨-, ended⟩ | ⟨failed, -⟩
    · exact absurd ended (here.not_ended bound fails moving)
    · exact failed

theorem run_of_fails (sound : origin.Sound) (status : origin.status = .randomized) {j : ℕ}
    (bound : j < m) (fails : origin.rules.Fails origin.strict origin.cells j)
    (moving : ∀ i < j, ¬origin.rules.Still origin.strict origin.cells i) :
    origin.At (origin.run (some m)).2 j := by
  obtain ⟨n, -, here, ⟨-, ended⟩ | ⟨-, -, -, fails'⟩⟩ := sound.run_at status m
  · exact absurd ended (here.not_ended bound fails moving)
  · rwa [fails'.unique fails] at here

end Sound

/-! ## Runs without a limit -/

/-- A limit that is not reached changes nothing, and neither do more steps after the end. -/
theorem steps_eq_of_ends {fuel more m : ℕ} (enough : fuel ≤ more)
    (room : world.iteration + fuel ≤ m)
    (ends : (∃ e, (world.steps none fuel).1 = .error e) ∨
      (world.steps none fuel).2.status = .converged) :
    world.steps (some m) more = world.steps none fuel := by
  induction fuel generalizing world more with
  | zero =>
    have converged : world.status = .converged := by
      rcases ends with ⟨e, answer⟩ | converged
      · cases answer
      · exact converged
    rw [steps_of_not_goesOn (goesOn_of_converged converged _), steps]
  | succ fuel ih =>
    obtain ⟨more, rfl⟩ := Nat.exists_eq_add_of_le' (Nat.lt_of_lt_of_le (Nat.succ_pos fuel) enough)
    by_cases converged : world.status = .converged
    · rw [steps_of_not_goesOn (goesOn_of_converged converged _),
        steps_of_not_goesOn (goesOn_of_converged converged _)]
    · have goes : world.goesOn none = true := goesOn_none converged
      have goes' : world.goesOn (some m) = true := goesOn_iff.2 ⟨converged, by rintro _ ⟨⟩; omega⟩
      cases stepped : world.step with | mk answer next =>
      cases answer with
      | error e => rw [steps_of_step_error goes stepped, steps_of_step_error goes' stepped]
      | ok k =>
        have iteration := iteration_of_step_ok converged stepped
        rw [steps_of_step_ok goes stepped] at ends ⊢
        rw [steps_of_step_ok goes' stepped]
        exact ih (by omega) (by omega) ends

theorem Sound.run_none (sound : origin.Sound) (status : origin.status = .randomized)
    (rests : ∃ n, origin.rules.Rests origin.strict origin.cells n) {m : ℕ}
    (large : generations w h < m) :
    origin.run (some m) = origin.run none := by
  have start := At.start sound status
  obtain ⟨n, lower, upper, here, -, ends⟩ := start.steps none (generations w h + 1)
  obtain ⟨k, early, atRest⟩ := RuleSet.exists_rests_lt rests.choose_spec
  have ends' : (∃ e, (origin.steps none (generations w h + 1)).1 = .error e) ∨
      (origin.steps none (generations w h + 1)).2.status = .converged := by
    rcases ends with ⟨-, ended | all⟩ | ⟨failed, -⟩
    · exact .inr (by simpa [goesOn] using ended)
    · rw [Nat.zero_add] at all
      rcases atRest with still | fails
      · exact absurd still (here.moved k (by omega))
      · have := fails.le_of_orbit here.cells
        omega
    · exact .inl failed
  have fuel : origin.remaining (some m) = m := by rw [remaining, start.iteration, Nat.sub_zero]
  have same := steps_eq_of_ends (m := m) large
    (by rw [start.iteration, Nat.zero_add]; exact large) ends'
  exact run_eq_of_steps_eq (by rw [fuel, same]; rfl) ends'

/-- A run computes the orbit of the cells, up to one step after the first generation that goes to
itself or up to its limit. It fails with the first generation that has no next one, if that is
reached before. -/
theorem run_computes_orbit {world : World w h} (reachable : Reachable world)
    (status : world.status = .randomized) :
    (∀ m result, (world.run (some m)).1 = .ok result →
      world.rules.orbit world.strict world.cells result.iterations =
        some (world.run (some m)).2.cells ∧
      (∀ k, IsLeast {k | world.rules.Still world.strict world.cells k} k →
        result.iterations = min m (k + 1)) ∧
      ((¬∃ k, world.rules.Still world.strict world.cells k) → result.iterations = m) ∧
      (result.endedNaturally = true ↔
        ∃ k, IsLeast {k | world.rules.Still world.strict world.cells k} k ∧ k + 1 ≤ m) ∧
      IsHistogram world.rules.states (world.run (some m)).2.cells result.finalCounts ∧
      result.history.rounds.size = result.iterations + 1) ∧
    (∀ m, (∃ e, (world.run (some m)).1 = .error (.failure e)) ↔
      ∃ j < m, world.rules.Fails world.strict world.cells j ∧
        ∀ i < j, ¬world.rules.Still world.strict world.cells i) ∧
    (∀ m, ∀ j < m, world.rules.Fails world.strict world.cells j →
      (∀ i < j, ¬world.rules.Still world.strict world.cells i) →
      (world.run (some m)).2.iteration = j ∧
        world.rules.orbit world.strict world.cells j = some (world.run (some m)).2.cells) ∧
    ((∃ k, world.rules.Still world.strict world.cells k) ∨
        (∃ j, world.rules.Fails world.strict world.cells j) →
      ∃ large, ∀ m ≥ large, world.run none = world.run (some m)) := by
  have sound := reachable.sound
  refine ⟨?_, sound.run_fails_iff status, ?_, ?_⟩
  · intro m result answer
    obtain ⟨same, within, here, ended⟩ := sound.run_eq_ok status answer
    have counts := here.rules ▸ isHistogram_counts here.begun
    have rounds := here.sound.rounds_size here.begun
    rw [here.iteration] at rounds
    have natural : result.endedNaturally = true ↔ (world.run (some m)).2.status = .converged := by
      rw [same]
      exact decide_eq_true_iff
    rw [natural]
    exact ⟨here.cells, fun k => here.eq_min within ended, here.eq_of_never ended,
      here.converged_iff within ended, same ▸ counts, same ▸ rounds⟩
  · intro m j bound fails moving
    have here := sound.run_of_fails status bound fails moving
    exact ⟨here.iteration, here.cells⟩
  · intro ends
    have rests : ∃ n, world.rules.Rests world.strict world.cells n := by
      rcases ends with ⟨k, still⟩ | ⟨j, fails⟩
      · exact ⟨k, .inl still⟩
      · exact ⟨j, .inr fails⟩
    exact ⟨generations w h + 1, fun m large => (sound.run_none status rests large).symm⟩

/-- The fire burns out after two steps, and a third one notices that nothing changes any more. -/
theorem run_computes_orbit_forest :
    Reachable forest ∧ forest.status = .randomized ∧
    ∃ result, (forest.run (some 5)).1 = .ok result ∧
      result.iterations = 3 ∧ forest.rules.orbit forest.strict forest.cells 3 =
        some ⟨#v[0, 0, 0]⟩ := by
  have answer : (forest.run (some 5)).1 = .ok (forest.run (some 5)).2.snapshot := by decide +kernel
  have cells : (forest.run (some 5)).2.cells = ⟨#v[0, 0, 0]⟩ := by decide +kernel
  have iterations : (forest.run (some 5)).2.snapshot.iterations = 3 := by decide +kernel
  have orbit := ((run_computes_orbit reachable_forest rfl).1 5 _ answer).1
  rw [cells, iterations] at orbit
  exact ⟨reachable_forest, rfl, _, answer, iterations, orbit⟩

end World

end CellularAutomaton
