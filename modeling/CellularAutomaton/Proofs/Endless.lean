import CellularAutomaton.Proofs.Resume

/-!
# Runs without an end

A run is endless if all of its steps succeed and none of them converges. That so many steps have
been made as there are generations is enough to know it, because by then one has come back.
-/

namespace CellularAutomaton

variable {w h : ℕ}

namespace RuleSet

variable {r : RuleSet} {strict : Bool} {g c : Grid State w h}

theorem rests_zero : r.Rests strict g 0 ↔
    r.globalMap strict g = none ∨ r.globalMap strict g = some g := by
  simp [Rests, Still, Fails, orbit, or_comm]

theorem rests_succ (goes : r.globalMap strict g = some c) (k : ℕ) :
    r.Rests strict g (k + 1) ↔ r.Rests strict c k := by
  rw [Rests, Rests, still_succ goes, Fails, Fails, orbit_succ_of_goes goes, orbit_succ_of_goes goes]

end RuleSet

namespace World

variable {world last : World w h}

/-- The generation `k` after the present one goes to no other one. -/
def Rests (world : World w h) (k : ℕ) : Prop := world.rules.Rests world.strict world.cells k

theorem rests_succ {next : Grid State w h} (goes : world.next? = some next) (k : ℕ) :
    world.Rests (k + 1) ↔ (world.advance next).Rests k :=
  RuleSet.rests_succ goes k

theorem not_rests_zero_iff : ¬world.Rests 0 ↔
    ∃ next, world.next? = some next ∧ (world.advance next).status = .running := by
  rw [Rests, RuleSet.rests_zero, not_or]
  constructor
  · rintro ⟨defined, moves⟩
    obtain ⟨next, goes⟩ := Option.ne_none_iff_exists'.1 defined
    have moved : world.cells ≠ next := fun same => moves (by rw [goes, same])
    exact ⟨next, goes, (world.advance_status next).resolve_left (mt advance_converged.1 moved)⟩
  · rintro ⟨next, goes, running⟩
    refine ⟨fun nowhere => ?_, fun stays => ?_⟩
    · cases nowhere.symm.trans goes
    · have same : world.cells = next := Option.some.inj (stays.symm.trans goes)
      cases running.symm.trans (advance_converged.2 same)

/-- There are walks of any length that do not converge. -/
def NeverRests (world : World w h) : Prop :=
  ∀ n, ∃ ns last, ns.length = n ∧ world.Walks ns last ∧ last.status ≠ .converged

theorem Walks.moving {ns : List ℕ} (walks : world.Walks ns last)
    (moving : last.status ≠ .converged) : world.status ≠ .converged := by
  intro converged
  rw [walks.eq_of_converged converged] at moving
  exact moving converged

theorem exists_walk_iff (active : world.Active) (n : ℕ) :
    (∃ ns last, ns.length = n ∧ world.Walks ns last ∧ last.status ≠ .converged) ↔
      ∀ k < n, ¬world.Rests k := by
  -- The worlds vary: the rest of a walk begins in the next one.
  induction n generalizing world with
  | zero =>
    exact ⟨fun _ k early => absurd early (Nat.not_lt_zero k),
      fun _ => ⟨[], world, rfl, .stay world, active.not_converged⟩⟩
  | succ n ih =>
    constructor
    · rintro ⟨_, last, length, walks, moving⟩ k early
      cases walks with
      | stay => cases length
      | step first rest =>
        obtain ⟨status, -⟩ | ⟨next, goes, -, rfl⟩ := cases_of_step_ok first
        · exact absurd status active.not_converged
        have running := (world.advance_status next).resolve_left (rest.moving moving)
        cases k with
        | zero => exact not_rests_zero_iff.2 ⟨next, goes, running⟩
        | succ k =>
          rw [rests_succ goes]
          exact (ih (.inr running)).1 ⟨_, last, Nat.succ.inj length, rest, moving⟩ k
            (Nat.lt_of_succ_lt_succ early)
    · intro moves
      obtain ⟨next, goes, running⟩ := not_rests_zero_iff.1 (moves 0 (Nat.succ_pos n))
      have later : ∀ k < n, ¬(world.advance next).Rests k := by
        intro k early
        rw [← rests_succ goes]
        exact moves (k + 1) (Nat.succ_lt_succ early)
      obtain ⟨ns, last, length, rest, moving⟩ := (ih (.inr running)).2 later
      exact ⟨_ :: ns, last, congrArg (· + 1) length, .step (step_of_next active goes) rest, moving⟩

theorem steps_none_eq_ok_iff (moving : last.status ≠ .converged) {n : ℕ} :
    world.steps none n = (.ok (), last) ↔ ∃ ns, ns.length = n ∧ world.Walks ns last := by
  induction n generalizing world with
  | zero =>
    constructor
    · rintro ⟨⟩
      exact ⟨[], rfl, .stay _⟩
    · rintro ⟨ns, empty, walks⟩
      obtain rfl := List.eq_nil_of_length_eq_zero empty
      cases walks
      rfl
  | succ n ih =>
    by_cases converged : world.status = .converged
    · rw [steps_of_not_goesOn (goesOn_of_converged converged none)]
      constructor
      · rintro ⟨⟩
        exact absurd converged moving
      · rintro ⟨ns, -, walks⟩
        rw [walks.eq_of_converged converged] at moving
        exact absurd converged moving
    · have goes := goesOn_none converged
      cases stepped : world.step with | mk answer next =>
      cases answer with
      | error e =>
        rw [steps_of_step_error goes stepped]
        constructor
        · rintro ⟨⟩
        · rintro ⟨ns, length, walks⟩
          cases walks with
          | stay => cases length
          | step first rest => cases stepped.symm.trans first
      | ok m =>
        rw [steps_of_step_ok goes stepped, ih]
        constructor
        · rintro ⟨ns, length, walks⟩
          exact ⟨m :: ns, congrArg (· + 1) length, .step stepped walks⟩
        · rintro ⟨ns, length, walks⟩
          cases walks with
          | stay => cases length
          | step first rest =>
            cases stepped.symm.trans first
            exact ⟨_, Nat.succ.inj length, rest⟩

theorem Walks.active {ns : List ℕ} (walks : world.Walks ns last) (some : ns ≠ [])
    (moving : last.status ≠ .converged) : world.Active := by
  cases walks with
  | stay => exact absurd rfl some
  | step first rest =>
    obtain ⟨-, failed⟩ | ⟨status, -⟩ | ⟨active, -⟩ | ⟨active, -⟩ := world.step_cases
    · rw [failed] at first
      cases first
    · exact absurd status ((Walks.step first rest).moving moving)
    · exact active
    · exact active

/-- The run stops looking after as many steps as there are generations, and one more. If it has not
come to an end by then, no later generation is at rest either. -/
theorem run_eq_endless_iff {max : Option ℕ} :
    (world.run max).1 = .error .endless ↔ max = none ∧ world.NeverRests := by
  rw [run_eq_endless_iff_goesOn, run_snd]
  constructor
  · rintro ⟨done, goes⟩
    cases max with
    | some m =>
      rw [steps_some_ended (by rw [remaining]; omega) done] at goes
      cases goes
    | none =>
      have moving := (goesOn_iff.1 goes).1
      obtain ⟨ns, length, walks⟩ := (steps_none_eq_ok_iff moving).1 (Prod.ext done rfl)
      have active := walks.active (List.ne_nil_of_length_eq_add_one length) moving
      have first := (exists_walk_iff active _).1 ⟨ns, _, length, walks, moving⟩
      refine ⟨rfl, fun n => (exists_walk_iff active n).2 fun k _ rests => ?_⟩
      obtain ⟨j, early, rests'⟩ := RuleSet.exists_rests_lt rests
      exact first j (Nat.lt_succ_of_lt early) rests'
  · rintro ⟨rfl, never⟩
    obtain ⟨ns, last, length, walks, moving⟩ := never (world.remaining none)
    rw [(steps_none_eq_ok_iff moving).2 ⟨ns, length, walks⟩]
    exact ⟨rfl, goesOn_none moving⟩

end World

end CellularAutomaton
