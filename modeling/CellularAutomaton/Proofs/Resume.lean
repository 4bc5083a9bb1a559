import CellularAutomaton.Proofs.Convergence
import CellularAutomaton.Proofs.Failure
import CellularAutomaton.Proofs.Run

/-!
# Runs that are taken up again

A run that has been cut off, has failed or has converged can be taken up again with a later limit.
It then ends as it would have ended without the break, and the history only grows on the way.
-/

namespace CellularAutomaton

variable {w h : ℕ}

/-! ## The history grows -/

/-- The rounds of one history are the first rounds of another one. -/
def History.Begins (past later : History) : Prop :=
  past.states = later.states ∧ past.rounds.toList <+: later.rounds.toList

theorem History.Begins.refl (past : History) : past.Begins past := ⟨rfl, List.prefix_refl _⟩

theorem History.Begins.trans {first second third : History} (before : first.Begins second)
    (after : second.Begins third) : first.Begins third :=
  ⟨before.1.trans after.1, before.2.trans after.2⟩

namespace World

variable {world next : World w h}

theorem Sound.begins_step (sound : world.Sound) : world.history.Begins world.step.2.history := by
  obtain ⟨-, same⟩ | ⟨-, same⟩ | ⟨active, next, -, moved⟩ | ⟨-, -, e, scratch, failed⟩ :=
    world.step_cases
  · rw [same]
    exact .refl _
  · rw [same]
    exact .refl _
  · rw [moved, sound.history_advance active]
    exact ⟨rfl, by simp⟩
  · rw [failed]
    exact .refl _

theorem Sound.begins_run (sound : world.Sound) (max : Option ℕ) :
    world.history.Begins (world.run max).2.history := by
  have kept : ∀ other : World w h, other.Sound ∧ world.history.Begins other.history →
      other.step.2.Sound ∧ world.history.Begins other.step.2.history :=
    fun other holds => ⟨holds.1.step, holds.2.trans holds.1.begins_step⟩
  exact (run_keeps kept ⟨sound, .refl _⟩ max).2

/-! ## A run with a break -/

theorem visible_run_run {a b : ℕ} (le : a ≤ b) (world : World w h) :
    visible ((world.run (some a)).2.run (some b)) = visible (world.run (some b)) := by
  -- The induction is on the number of steps up to the first limit. A step that fails before it
  -- fails again when the run is taken up.
  induction left : a - world.iteration using Nat.strong_induction_on generalizing world with
  | _ left ih =>
    cases goes : world.goesOn (some a) with
    | false => rw [run_of_not_goesOn goes]
    | true =>
      obtain ⟨moving, early⟩ := goesOn_iff.1 goes
      have early := early a rfl
      have goes' : world.goesOn (some b) = true :=
        goesOn_iff.2 ⟨moving, by rintro _ ⟨⟩; exact Nat.lt_of_lt_of_le early le⟩
      cases stepped : world.step with | mk answer next =>
      cases answer with
      | error e =>
        have failed : world.step.1 = .error e := congrArg Prod.fst stepped
        have same := observable_of_step_error failed
        rw [run_of_step_error goes stepped]
        rw [stepped] at same
        exact visible_run same _
      | ok n =>
        have iteration := iteration_of_step_ok moving stepped
        rw [run_of_step_ok goes stepped, run_of_step_ok goes' stepped]
        exact ih (a - next.iteration) (by omega) next rfl

/-! ## More steps after the end -/

theorem steps_of_ended {max : Option ℕ} {fuel more : ℕ} (enough : fuel ≤ more)
    (ended : (world.steps max fuel).2.goesOn max = false)
    (done : (world.steps max fuel).1 = .ok ()) :
    world.steps max more = world.steps max fuel := by
  induction fuel generalizing world more with
  | zero =>
    have stops : world.goesOn max = false := ended
    rw [steps_of_not_goesOn stops, steps]
  | succ fuel ih =>
    obtain ⟨more, rfl⟩ := Nat.exists_eq_add_of_le' (Nat.lt_of_lt_of_le (Nat.succ_pos fuel) enough)
    cases goes : world.goesOn max with
    | false => rw [steps_of_not_goesOn goes, steps_of_not_goesOn goes]
    | true =>
      cases stepped : world.step with | mk answer next =>
      cases answer with
      | error e =>
        rw [steps_of_step_error goes stepped] at done
        cases done
      | ok n =>
        rw [steps_of_step_ok goes stepped] at ended done ⊢
        rw [steps_of_step_ok goes stepped]
        exact ih (Nat.le_of_succ_le_succ enough) ended done

end World

/-! ## The generation at which a run converges -/

namespace RuleSet

variable {r : RuleSet} {strict : Bool} {g c : Grid State w h}

theorem orbit_succ_of_goes (goes : r.globalMap strict g = some c) (n : ℕ) :
    r.orbit strict g (n + 1) = r.orbit strict c n := by
  induction n with
  | zero => exact goes
  | succ n ih => rw [orbit, ih, orbit]

theorem still_succ (goes : r.globalMap strict g = some c) (k : ℕ) :
    r.Still strict g (k + 1) ↔ r.Still strict c k := by
  rw [Still, Still, orbit_succ_of_goes goes, orbit_succ_of_goes goes]

theorem still_zero (goes : r.globalMap strict g = some c) : r.Still strict g 0 ↔ g = c := by
  rw [Still, orbit_succ_of_goes goes, orbit, orbit]
  simp [eq_comm]

end RuleSet

namespace World

variable {world next : World w h}

def Still (world : World w h) (k : ℕ) : Prop := world.rules.Still world.strict world.cells k

theorem exists_still_of_converged (active : world.Active) {max : Option ℕ} {fuel : ℕ}
    (converged : (world.steps max fuel).2.status = .converged) : ∃ k < fuel, world.Still k := by
  induction fuel generalizing world with
  | zero => exact absurd converged active.not_converged
  | succ fuel ih =>
    rw [steps] at converged
    split_ifs at converged
    · obtain ⟨blank, -⟩ | ⟨status, -⟩ | ⟨-, next, goes, moved⟩ | ⟨-, -, e, scratch, failed⟩ :=
        world.step_cases
      · exact absurd blank active.begun
      · exact absurd status active.not_converged
      · rw [moved] at converged
        rcases world.advance_status next with status | status
        · exact ⟨0, Nat.succ_pos _, (RuleSet.still_zero goes).2 (advance_converged.1 status)⟩
        · obtain ⟨k, bound, still⟩ := ih (.inr status) converged
          exact ⟨k + 1, Nat.succ_lt_succ bound, (RuleSet.still_succ goes k).2 still⟩
      · rw [failed] at converged
        exact absurd converged active.not_converged
    · exact absurd converged active.not_converged

theorem Still.exists_next {k : ℕ} (still : world.Still k) : ∃ next, world.next? = some next := by
  obtain ⟨c, -, there⟩ := still
  obtain ⟨next, goes⟩ := RuleSet.exists_orbit_of_le (Nat.succ_le_succ (Nat.zero_le k)) there
  exact ⟨next, goes⟩

/-- Steps without a limit converge right after the first generation that goes to itself. -/
theorem steps_none_of_still (active : world.Active) {k : ℕ} (still : world.Still k)
    (first : ∀ j < k, ¬world.Still j) :
    (world.steps none (k + 1)).1 = .ok () ∧ (world.steps none (k + 1)).2.status = .converged := by
  induction k generalizing world with
  | zero =>
    obtain ⟨next, goes⟩ := still.exists_next
    have same : world.cells = next := (RuleSet.still_zero goes).1 still
    rw [steps_of_step_ok (goesOn_none active.not_converged) (step_of_next active goes)]
    exact ⟨rfl, advance_converged.2 same⟩
  | succ k ih =>
    obtain ⟨next, goes⟩ := still.exists_next
    have differ : world.cells ≠ next :=
      fun same => first 0 (Nat.succ_pos k) ((RuleSet.still_zero goes).2 same)
    have running : (world.advance next).status = .running :=
      (world.advance_status next).resolve_left (mt advance_converged.1 differ)
    rw [steps_of_step_ok (goesOn_none active.not_converged) (step_of_next active goes)]
    apply ih (.inr running) ((RuleSet.still_succ goes k).1 still)
    intro j earlier stands
    exact first (j + 1) (Nat.succ_lt_succ earlier) ((RuleSet.still_succ goes j).2 stands)

/-- If a run with a limit converges, then a run without one makes the same steps. There are enough
of these, because the generations before are all different. -/
theorem run_none_of_converged (active : world.Active) {a : ℕ}
    (converged : (world.run (some a)).2.status = .converged) :
    world.run none = world.run (some a) := by
  classical
  rw [run_snd] at converged
  obtain ⟨k, bound, still⟩ := exists_still_of_converged active converged
  have some : ∃ k, world.Still k := ⟨k, still⟩
  have here := Nat.find_spec some
  have first : ∀ j < Nat.find some, ¬world.Still j := fun j => Nat.find_min some
  have early : Nat.find some ≤ k := Nat.find_min' some still
  have few : Nat.find some < generations w h := by
    obtain ⟨n, small, rests⟩ := RuleSet.exists_rests_lt (.inl here)
    apply Nat.lt_of_le_of_lt _ small
    rcases rests with stands | fails
    · exact Nat.find_min' some stands
    · obtain ⟨c, -, there⟩ := here
      exact Nat.le_of_succ_le (fails.le_of_orbit there)
  obtain ⟨done, ended⟩ := steps_none_of_still active here first
  have limited : world.steps (.some a) (world.remaining (.some a)) =
      world.steps none (Nat.find some + 1) :=
    steps_eq_of_ends (by omega) (by rw [remaining] at bound; omega) (.inr ended)
  have unlimited : world.steps none (world.remaining none) = world.steps none (Nat.find some + 1) :=
    steps_of_ended (Nat.succ_le_succ few.le) (goesOn_of_converged ended none) done
  exact run_eq_of_steps_eq (by rw [limited, unlimited]) (.inr (by rw [limited]; exact ended))

theorem converged_of_endedNaturally {max : Option ℕ} {result : RunResult}
    (answer : (world.run max).1 = .ok result) (natural : result.endedNaturally = true) :
    (world.run max).2.status = .converged ∧ result = (world.run max).2.snapshot := by
  obtain ⟨-, -, rfl⟩ := run_eq_ok_iff.1 answer
  exact ⟨of_decide_eq_true natural, rfl⟩

theorem run_none_of_endedNaturally {a : ℕ}
    (converged : (world.run (some a)).2.status = .converged) :
    world.run none = world.run (some a) := by
  cases status : world.status with
  | uninitialized =>
    -- No step gets a world out of this status.
    have stays : (world.run (some a)).2.status = .uninitialized := by
      refine run_keeps (P := (·.status = .uninitialized)) ?_ status _
      intro other blank
      rw [step, blank]
      exact blank
    rw [stays] at converged
    cases converged
  | converged => rw [(inert_of_converged status).run, (inert_of_converged status).run]
  | randomized => exact run_none_of_converged (.inl status) converged
  | running => exact run_none_of_converged (.inr status) converged

end World

/-- A run with a limit can be cut off by an earlier one and taken up again: the answer and all that
can be seen of the world are as without the break, also if one of the runs fails. The history of the
first run is where that of the whole run begins; and what has come to its natural end is not changed
by other limits. -/
theorem Reachable.runs_resume {world : World w h} (reachable : Reachable world) {a b : ℕ}
    (le : a ≤ b) :
    ((world.run (some a)).2.run (some b)).1 = (world.run (some b)).1 ∧
    ((world.run (some a)).2.run (some b)).2.observable = (world.run (some b)).2.observable ∧
    (world.run (some a)).2.history.Begins (world.run (some b)).2.history ∧
    ∀ result, (world.run (some a)).1 = .ok result → result.endedNaturally = true →
      (world.run (some b)).1 = .ok result ∧ (world.run none).1 = .ok result := by
  have resumed := World.visible_eq_iff.1 (World.visible_run_run le world)
  refine ⟨resumed.1, resumed.2, ?_, ?_⟩
  · have sound := World.run_keeps (fun _ => World.Sound.step) reachable.sound (some a)
    have grows := sound.begins_run (some b)
    have shown := congrArg World.history resumed.2
    change ((world.run (some a)).2.run (some b)).2.history = (world.run (some b)).2.history at shown
    rwa [shown] at grows
  · intro result answer natural
    obtain ⟨converged, told⟩ := World.converged_of_endedNaturally answer natural
    have inert := World.inert_of_converged converged
    rw [← resumed.1, inert.run, World.run_none_of_endedNaturally converged, answer, told]
    exact ⟨rfl, rfl⟩

/-- The fire in the forest burns out in three steps, whether it is watched from the first one on or
from the second. -/
theorem Reachable.runs_resume_forest :
    Reachable forest ∧ (forest.run (some 1)).2.status = .running ∧
      ((forest.run (some 1)).2.run (some 4)).1 = (forest.run (some 4)).1 ∧
      ∃ result, (forest.run (some 4)).1 = .ok result ∧ result.iterations = 3 ∧
        (forest.run (some 9)).1 = .ok result ∧ (forest.run none).1 = .ok result := by
  have answer : (forest.run (some 4)).1 = .ok (forest.run (some 4)).2.snapshot := by decide +kernel
  have natural : (forest.run (some 4)).2.snapshot.endedNaturally = true := by decide +kernel
  obtain ⟨same, -⟩ := runs_resume reachable_forest (show 1 ≤ 4 by decide)
  obtain ⟨-, -, -, longer⟩ := runs_resume reachable_forest (show 4 ≤ 9 by decide)
  exact ⟨reachable_forest, by decide +kernel, same, _, answer, by decide +kernel,
    longer _ answer natural⟩

end CellularAutomaton
