import CellularAutomaton.Proofs.Reachable

/-!
# Steps one after another

A walk is a sequence of steps that all succeed. A run is a walk as well, up to the first world where
it is over or where a step fails; and it makes its first step and then runs on from where this has
led.
-/

namespace CellularAutomaton.World

variable {w h : ℕ}

/-- Steps that succeed lead from one world to another one. The list tells what they answer. -/
inductive Walks : World w h → List ℕ → World w h → Prop
  | stay (world : World w h) : Walks world [] world
  | step {world next last : World w h} {n : ℕ} {ns : List ℕ} (first : world.step = (.ok n, next))
      (rest : Walks next ns last) : Walks world (n :: ns) last

variable {world next last : World w h} {e : Error} {n : ℕ}

theorem Walks.of_answer {ns : List ℕ} (answer : world.step.1 = .ok n)
    (rest : world.step.2.Walks ns last) :
    world.Walks (n :: ns) last := .step (Prod.ext answer rfl) rest

theorem Walks.keeps {P : World w h → Prop} (kept : ∀ world, P world → P world.step.2)
    (holds : P world) {ns : List ℕ} (walks : world.Walks ns last) : P last := by
  induction walks with
  | stay => exact holds
  | step first rest ih =>
    have after := kept _ holds
    rw [first] at after
    exact ih after

theorem Walks.begun {ns : List ℕ} (walks : world.Walks ns last)
    (begun : world.status ≠ .uninitialized) :
    last.status ≠ .uninitialized := by
  induction walks with
  | stay => exact begun
  | step first rest ih =>
    obtain ⟨-, -, rfl⟩ | ⟨after, -, -, rfl⟩ := cases_of_step_ok first
    · exact ih begun
    · exact ih (advance_begun _ after)

/-- When each step of one world has its like in another world, so has each walk. -/
theorem Walks.simulate {w' h' : ℕ} {Q : World w h → World w' h' → Prop}
    (follows : ∀ world other, Q world other → ∀ n next, world.step = (.ok n, next) →
      ∃ next', other.step = (.ok n, next') ∧ Q next next')
    {ns : List ℕ} (walks : world.Walks ns last) {other : World w' h'} (alike : Q world other) :
    ∃ last', other.Walks ns last' ∧ Q last last' := by
  induction walks generalizing other with
  | stay world => exact ⟨other, .stay other, alike⟩
  | step first rest ih =>
    obtain ⟨next', first', alike'⟩ := follows _ _ alike _ _ first
    obtain ⟨last', rest', last_alike⟩ := ih alike'
    exact ⟨last', .step first' rest', last_alike⟩

/-! ## A run as a loop -/

theorem goesOn_iff {max : Option ℕ} :
    world.goesOn max = true ↔ world.status ≠ .converged ∧ ∀ m ∈ max, world.iteration < m := by
  rw [goesOn, Bool.and_eq_true, decide_eq_true_eq]
  cases max <;> simp

theorem goesOn_none (moving : world.status ≠ .converged) : world.goesOn none = true :=
  goesOn_iff.2 ⟨moving, by simp⟩

theorem goesOn_of_converged (status : world.status = .converged) (max : Option ℕ) :
    world.goesOn max = false := by
  simp [goesOn, status]

theorem steps_of_not_goesOn {max : Option ℕ} (ended : world.goesOn max = false) (fuel : ℕ) :
    world.steps max fuel = (.ok (), world) := by
  cases fuel with
  | zero => rfl
  | succ fuel => rw [steps, ended, if_neg Bool.false_ne_true]

theorem steps_of_step_error {max : Option ℕ} (goes : world.goesOn max = true)
    (failed : world.step = (.error e, last)) (fuel : ℕ) :
    world.steps max (fuel + 1) = (.error e, last) := by
  rw [steps, if_pos goes, failed]

theorem steps_of_step_ok {max : Option ℕ} (goes : world.goesOn max = true)
    (moved : world.step = (.ok n, next)) (fuel : ℕ) :
    world.steps max (fuel + 1) = next.steps max fuel := by
  rw [steps, if_pos goes, moved]

theorem exists_remaining_eq {max : Option ℕ} (goes : world.goesOn max = true) :
    ∃ fuel, world.remaining max = fuel + 1 := by
  cases max with
  | none => exact ⟨_, rfl⟩
  | some m =>
    have early := (goesOn_iff.1 goes).2 m rfl
    exact ⟨m - world.iteration - 1, by rw [remaining]; omega⟩

theorem iteration_of_step_ok (moving : world.status ≠ .converged)
    (moved : world.step = (.ok n, next)) :
    next.iteration = world.iteration + 1 := by
  obtain ⟨status, -⟩ | ⟨after, -, -, rfl⟩ := cases_of_step_ok moved
  · exact absurd status moving
  · rfl

theorem steps_some_ended {m fuel : ℕ} (enough : m ≤ world.iteration + fuel)
    (done : (world.steps (some m) fuel).1 = .ok ()) :
    (world.steps (some m) fuel).2.goesOn (some m) = false := by
  induction fuel generalizing world with
  | zero =>
    have reached : ¬world.iteration < m := by omega
    simp [steps, goesOn, reached]
  | succ fuel ih =>
    cases goes : world.goesOn (some m) with
    | false => rwa [steps_of_not_goesOn goes]
    | true =>
      cases stepped : world.step with | mk answer next =>
      cases answer with
      | error e =>
        rw [steps_of_step_error goes stepped] at done
        cases done
      | ok n =>
        have iteration := iteration_of_step_ok (goesOn_iff.1 goes).1 stepped
        rw [steps_of_step_ok goes stepped] at done ⊢
        exact ih (by omega) done

theorem conclude_of_not_goesOn {max : Option ℕ} (ended : world.goesOn max = false)
    (result : RunResult) : world.conclude max result = .ok result := by
  rw [conclude, ended, if_neg Bool.false_ne_true]

theorem conclude_eq_ok_iff {max : Option ℕ} {result r : RunResult} :
    world.conclude max result = .ok r ↔ world.goesOn max = false ∧ r = result := by
  rw [conclude]
  split_ifs with goes <;> simp [goes, eq_comm]

theorem conclude_eq_endless_iff {max : Option ℕ} {result : RunResult} :
    world.conclude max result = .error .endless ↔ world.goesOn max = true := by
  rw [conclude]
  split_ifs with goes <;> simp [goes]

theorem conclude_ne_failure {max : Option ℕ} {result : RunResult} (e : Error) :
    world.conclude max result ≠ .error (.failure e) := by
  rw [conclude]
  split_ifs <;> simp

theorem run_of_steps_error {max : Option ℕ}
    (failed : world.steps max (world.remaining max) = (.error e, last)) :
    world.run max = (.error (.failure e), last) := by
  rw [run, failed]

theorem run_of_steps_ended {max : Option ℕ}
    (done : world.steps max (world.remaining max) = (.ok (), last))
    (ended : last.goesOn max = false) : world.run max = (.ok last.snapshot, last) := by
  rw [run, done]
  show (last.conclude max last.snapshot, last) = _
  rw [conclude_of_not_goesOn ended]

theorem run_eq_failure_iff {max : Option ℕ} :
    (world.run max).1 = .error (.failure e) ↔
      (world.steps max (world.remaining max)).1 = .error e := by
  rw [run]
  split
  · next failed => simp [failed]
  · next done => simp [done, conclude_ne_failure]

theorem run_eq_ok_iff {max : Option ℕ} {r : RunResult} :
    (world.run max).1 = .ok r ↔ (world.steps max (world.remaining max)).1 = .ok () ∧
      (world.run max).2.goesOn max = false ∧ r = (world.run max).2.snapshot := by
  rw [run]
  split
  · next failed => simp [failed]
  · next done => simp [done, conclude_eq_ok_iff]

theorem run_ne_overflow (max : Option ℕ) : (world.run max).1 ≠ .error .overflow := by
  rw [run]
  split
  · simp
  · rw [conclude]
    split_ifs <;> simp

theorem run_eq_endless_iff_goesOn {max : Option ℕ} :
    (world.run max).1 = .error .endless ↔
      (world.steps max (world.remaining max)).1 = .ok () ∧ (world.run max).2.goesOn max = true := by
  rw [run]
  split
  · next failed => simp [failed]
  · next done => simp [done, conclude_eq_endless_iff]

/-- Two limits under which a run makes the same steps, up to its natural end, are as good. -/
theorem run_eq_of_steps_eq {max max' : Option ℕ}
    (same : world.steps max (world.remaining max) = world.steps max' (world.remaining max'))
    (ends : (∃ e, (world.steps max' (world.remaining max')).1 = .error e) ∨
      (world.steps max' (world.remaining max')).2.status = .converged) :
    world.run max = world.run max' := by
  rw [run, run, same]
  generalize world.steps max' (world.remaining max') = result at ends
  obtain ⟨e | _, last⟩ := result
  · rfl
  · have converged : last.status = .converged := ends.resolve_left (by rintro ⟨e, ⟨⟩⟩)
    simp only [conclude_of_not_goesOn (goesOn_of_converged converged _)]

theorem run_of_not_goesOn {max : Option ℕ} (ended : world.goesOn max = false) :
    world.run max = (.ok world.snapshot, world) :=
  run_of_steps_ended (steps_of_not_goesOn ended _) ended

theorem run_of_step_error {max : Option ℕ} (goes : world.goesOn max = true)
    (failed : world.step = (.error e, last)) : world.run max = (.error (.failure e), last) := by
  obtain ⟨fuel, left⟩ := exists_remaining_eq goes
  rw [run, left, steps_of_step_error goes failed]

theorem run_of_step_ok {m : ℕ} (goes : world.goesOn (some m) = true)
    (moved : world.step = (.ok n, next)) :
    world.run (some m) = next.run (some m) := by
  obtain ⟨moving, early⟩ := goesOn_iff.1 goes
  have early := early m rfl
  have left : world.remaining (some m) = next.remaining (some m) + 1 := by
    rw [remaining, remaining, iteration_of_step_ok moving moved]
    omega
  rw [run, run, left, steps_of_step_ok goes moved]

/-! ## A run as a walk -/

theorem steps_walks (world : World w h) (max : Option ℕ) (fuel : ℕ) :
    ∃ ns last, world.Walks ns last ∧
      (world.steps max fuel = (.ok (), last) ∨
        ∃ e, last.step.1 = .error e ∧ world.steps max fuel = (.error e, last.step.2)) := by
  induction fuel generalizing world with
  | zero => exact ⟨[], world, .stay world, .inl rfl⟩
  | succ fuel ih =>
    cases goes : world.goesOn max with
    | false => exact ⟨[], world, .stay world, .inl (steps_of_not_goesOn goes _)⟩
    | true =>
      cases stepped : world.step with | mk answer next =>
      cases answer with
      | error e =>
        refine ⟨[], world, .stay world, .inr ⟨e, congrArg Prod.fst stepped, ?_⟩⟩
        rw [steps_of_step_error goes stepped, stepped]
      | ok n =>
        obtain ⟨ns, last, walks, ends⟩ := ih next
        rw [steps_of_step_ok goes stepped]
        exact ⟨n :: ns, last, .step stepped walks, ends⟩

/-- Where a run leads: to the end of a walk, or to what a failing step leaves there. -/
theorem run_walks (world : World w h) (max : Option ℕ) :
    ∃ ns last, world.Walks ns last ∧
      (world.run max = (last.conclude max last.snapshot, last) ∨
        ∃ e, last.step.1 = .error e ∧
          world.run max = (.error (.failure e), last.step.2)) := by
  obtain ⟨ns, last, walks, done | ⟨e, failed, ended⟩⟩ :=
    world.steps_walks max (world.remaining max)
  · exact ⟨ns, last, walks, .inl (by rw [run, done])⟩
  · exact ⟨ns, last, walks, .inr ⟨e, failed, run_of_steps_error ended⟩⟩

end CellularAutomaton.World
