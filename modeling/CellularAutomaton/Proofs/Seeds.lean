import CellularAutomaton.Config.Basic
import CellularAutomaton.Proofs.Endless
import CellularAutomaton.Proofs.Outcome

/-!
# Runs with consecutive seeds

A run of a configuration with a seed is decided by the sum of the seed and the number of the run,
and by nothing that has happened in the runs before it. So each of several runs can be repeated on
its own, under the seed that it has had among the others, and a row of runs can be cut into two.
-/

namespace CellularAutomaton.Config

variable {c : Config} {rules : RuleSet} {entropy entropy' : ℕ → UInt64}

/-- The configuration with another seed. Numbers that are too large wrap around. -/
def seeded (c : Config) (n : ℕ) : Config := { c with seed := some (UInt64.ofNat n) }

theorem seeded_toNat {s : UInt64} (seed : c.seed = some s) : c.seeded s.toNat = c := by
  rw [seeded, UInt64.ofNat_toNat, ← seed]

theorem seeded_mod (c : Config) (n : ℕ) : c.seeded (n % 2 ^ 64) = c.seeded n := by
  have same : UInt64.ofNat (n % 2 ^ 64) = UInt64.ofNat n := by
    apply UInt64.toNat_inj.1
    simp
  rw [seeded, seeded, same]

theorem seedOf_seeded (c : Config) (entropy : ℕ → UInt64) (n i : ℕ) :
    (c.seeded n).seedOf entropy i = UInt64.ofNat (n + i) := by simp [seedOf, seeded]

theorem worldOfRun_entropy {s : UInt64} (seed : c.seed = some s) (rules : RuleSet)
    (entropy entropy' : ℕ → UInt64) (i : ℕ) :
    c.worldOfRun entropy rules i = c.worldOfRun entropy' rules i := by
  have same : c.seedOf entropy i = c.seedOf entropy' i := by simp [seedOf, seed]
  rw [worldOfRun, worldOfRun, same]

theorem run_entropy {s : UInt64} (seed : c.seed = some s) (rules : RuleSet)
    (entropy entropy' : ℕ → UInt64) (i : ℕ) :
    c.run entropy rules i = c.run entropy' rules i := by
  rw [run, run, worldOfRun_entropy seed rules entropy entropy']

/-- Only the seed of a run matters, not how it comes about. -/
theorem run_seeded (c : Config) (rules : RuleSet) (entropy entropy' : ℕ → UInt64) (n i k : ℕ) :
    (c.seeded n).run entropy rules (i + k) = (c.seeded (n + i)).run entropy' rules k := by
  have same : (c.seeded n).seedOf entropy (i + k) = (c.seeded (n + i)).seedOf entropy' k := by
    rw [seedOf_seeded, seedOf_seeded, Nat.add_assoc]
  unfold run worldOfRun
  rw [same]
  rfl

theorem runsFrom_seeded (c : Config) (rules : RuleSet) (entropy entropy' : ℕ → UInt64)
    (n i k m : ℕ) :
    (c.seeded n).runsFrom entropy rules (i + k) m =
      (c.seeded (n + i)).runsFrom entropy' rules k m := by
  induction m generalizing k with
  | zero => rfl
  | succ m ih =>
    simp only [runsFrom]
    rw [run_seeded c rules entropy entropy', Nat.add_assoc, ih]

theorem runsFrom_entropy {s : UInt64} (seed : c.seed = some s) (rules : RuleSet)
    (entropy entropy' : ℕ → UInt64) (first n : ℕ) :
    c.runsFrom entropy rules first n = c.runsFrom entropy' rules first n := by
  have free := runsFrom_seeded c rules entropy entropy' s.toNat 0 first n
  rwa [Nat.add_zero, Nat.zero_add, seeded_toNat seed] at free

theorem runAll_entropy {s : UInt64} (seed : c.seed = some s) (rules : RuleSet)
    (entropy entropy' : ℕ → UInt64) :
    c.runAll entropy rules = c.runAll entropy' rules :=
  runsFrom_entropy seed rules entropy entropy' 0 c.runs

theorem runsFrom_with_runs (c : Config) (entropy : ℕ → UInt64) (rules : RuleSet) (a first n : ℕ) :
    { c with runs := a }.runsFrom entropy rules first n = c.runsFrom entropy rules first n := by
  induction n generalizing first with
  | zero => rfl
  | succ n ih =>
    rw [runsFrom, runsFrom, ih]
    rfl

/-! ## What keeps a run from its result -/

theorem failure_or_new_eq_of_worldOfRun {i : ℕ} {o : Obstacle}
    (stopped : c.worldOfRun entropy rules i = .error o) :
    (∃ e, o = .failure e) ∨ World.new c.width c.height rules = .error o := by
  unfold worldOfRun world at stopped
  obtain unmade | ⟨blank, -, stopped⟩ := bind_eq_error.1 stopped
  · exact .inr (map_eq_error.1 unmade)
  · obtain undrawn | ⟨_, -, stopped⟩ := bind_eq_error.1 stopped
    · obtain ⟨e, -, rfl⟩ := mapError_eq_error.1 undrawn
      exact .inl ⟨e, rfl⟩
    · cases given : c.edge with
      | none =>
        rw [given] at stopped
        cases stopped
      | some edge =>
        rw [given] at stopped
        obtain unseeded | ⟨_, -, stopped⟩ := bind_eq_error.1 stopped
        · obtain ⟨e, -, rfl⟩ := mapError_eq_error.1 unseeded
          exact .inl ⟨e, rfl⟩
        · cases stopped

/-- Whether the worlds are too large is a matter of their size, and not of the seed. -/
theorem run_eq_overflow_iff {i : ℕ} : c.run entropy rules i = .error .overflow ↔
    World.new c.width c.height rules = .error .overflow := by
  constructor
  · intro overflow
    obtain unmade | ⟨start, -, stopped⟩ := bind_eq_error.1 overflow
    · obtain ⟨e, ⟨⟩⟩ | large := failure_or_new_eq_of_worldOfRun unmade
      exact large
    · exact absurd stopped (World.run_ne_overflow _)
  · intro large
    rw [run, worldOfRun, world, large]
    rfl

theorem run_eq_endless_iff {i : ℕ} : c.run entropy rules i = .error .endless ↔
    c.maxIterations = none ∧ ∃ start, c.worldOfRun entropy rules i = .ok start ∧
      start.NeverRests := by
  rw [run, bind_eq_error]
  simp only [World.run_eq_endless_iff]
  constructor
  · rintro (unmade | ⟨start, made, unlimited, never⟩)
    · obtain ⟨e, ⟨⟩⟩ | unmade := failure_or_new_eq_of_worldOfRun unmade
      exact absurd unmade World.new_ne_endless
    · exact ⟨unlimited, start, made, never⟩
  · rintro ⟨unlimited, start, made, never⟩
    exact .inr ⟨start, made, unlimited, never⟩

/-! ## Runs one after another -/

theorem runsFrom_add (c : Config) (entropy : ℕ → UInt64) (rules : RuleSet) (first a b : ℕ) :
    c.runsFrom entropy rules first (a + b) = (do
      let front ← c.runsFrom entropy rules first a
      let back ← c.runsFrom entropy rules (first + a) b
      return front ++ back) := by
  induction a generalizing first with
  | zero =>
    show c.runsFrom entropy rules first (0 + b) = _
    rw [Nat.zero_add, runsFrom, Nat.add_zero]
    cases c.runsFrom entropy rules first b <;> rfl
  | succ a ih =>
    rw [Nat.succ_add, runsFrom, runsFrom, ih, Nat.add_right_comm first 1 a, Nat.add_assoc first a 1]
    simp

theorem runsFrom_eq_ok_iff {first n : ℕ} {results : List RunResult} :
    c.runsFrom entropy rules first n = .ok results ↔
      results.length = n ∧ ∀ i r, results[i]? = some r →
        c.run entropy rules (first + i) = .ok r := by
  induction n generalizing first results with
  | zero =>
    rw [runsFrom, List.length_eq_zero_iff]
    constructor
    · intro same
      cases same
      simp
    · rintro ⟨rfl, -⟩
      rfl
  | succ n ih =>
    simp only [runsFrom, bind_eq_ok, ih]
    constructor
    · rintro ⟨r, here, rest, ⟨length, later⟩, same⟩
      cases same
      refine ⟨by simp [length], ?_⟩
      rintro (_ | i) s found
      · cases found
        exact here
      · rw [Nat.add_comm i, ← Nat.add_assoc]
        exact later i s found
    · rintro ⟨length, each⟩
      obtain ⟨r, rest, rfl⟩ := List.exists_cons_of_length_eq_add_one length
      refine ⟨r, each 0 r rfl, rest, ⟨by simpa using length, fun i s found => ?_⟩, rfl⟩
      rw [Nat.add_assoc, Nat.add_comm 1]
      exact each (i + 1) s found

/-- The first run without a result ends all of them. -/
theorem runsFrom_eq_error_iff {first n : ℕ} {o : Obstacle} :
    c.runsFrom entropy rules first n = .error o ↔
      ∃ i < n, c.run entropy rules (first + i) = .error o ∧
        ∀ j < i, ∃ r, c.run entropy rules (first + j) = .ok r := by
  induction n generalizing first with
  | zero => simp [runsFrom]
  | succ n ih =>
    rw [runsFrom]
    cases here : c.run entropy rules first with
    | error o' =>
      constructor
      · intro same
        cases same
        exact ⟨0, Nat.succ_pos n, here, by simp⟩
      · rintro ⟨i, -, failed, earlier⟩
        obtain rfl : i = 0 := by
          by_contra later
          obtain ⟨r, done⟩ := earlier 0 (Nat.pos_of_ne_zero later)
          rw [Nat.add_zero, here] at done
          cases done
        rw [Nat.add_zero, here] at failed
        cases failed
        rfl
    | ok r =>
      have tail : (do return r :: (← c.runsFrom entropy rules (first + 1) n) :
          Except Obstacle (List RunResult)) = .error o ↔
            c.runsFrom entropy rules (first + 1) n = .error o := by
        cases c.runsFrom entropy rules (first + 1) n <;> simp [bind, Except.bind, pure, Except.pure]
      refine tail.trans (ih.trans ⟨?_, ?_⟩)
      · rintro ⟨i, bound, failed, earlier⟩
        refine ⟨i + 1, Nat.succ_lt_succ bound, by rw [← failed, Nat.add_assoc, Nat.add_comm 1], ?_⟩
        rintro (_ | j) before
        · exact ⟨r, here⟩
        · rw [Nat.add_comm j, ← Nat.add_assoc]
          exact earlier j (Nat.lt_of_succ_lt_succ before)
      · rintro ⟨_ | i, bound, failed, earlier⟩
        · rw [Nat.add_zero, here] at failed
          cases failed
        · refine ⟨i, Nat.lt_of_succ_lt_succ bound,
            by rw [← failed, Nat.add_assoc, Nat.add_comm 1], ?_⟩
          intro j before
          rw [Nat.add_assoc, Nat.add_comm 1]
          exact earlier (j + 1) (Nat.succ_lt_succ before)

/-- Of the obstacles only a run without an end can keep a later run from failing: worlds that are
too large for one run are too large for all. -/
theorem exists_runsFrom_eq_failure_iff {first n : ℕ} :
    (∃ e, c.runsFrom entropy rules first n = .error (.failure e)) ↔
      ∃ i < n, (∃ e, c.run entropy rules (first + i) = .error (.failure e)) ∧
        ∀ j < i, c.run entropy rules (first + j) ≠ .error .endless := by
  constructor
  · rintro ⟨e, answer⟩
    obtain ⟨i, bound, answer, earlier⟩ := runsFrom_eq_error_iff.1 answer
    refine ⟨i, bound, ⟨e, answer⟩, fun j before endless => ?_⟩
    obtain ⟨r, found⟩ := earlier j before
    cases found.symm.trans endless
  · rintro ⟨i, bound, ⟨e, answer⟩, ends⟩
    cases all : c.runsFrom entropy rules first n with
    | error o =>
      obtain ⟨j, -, here, earlier⟩ := runsFrom_eq_error_iff.1 all
      have least : j ≤ i := by
        by_contra later
        obtain ⟨r, found⟩ := earlier i (Nat.lt_of_not_ge later)
        cases found.symm.trans answer
      cases o with
      | failure e' => exact ⟨e', rfl⟩
      | overflow =>
        have large : c.run entropy rules (first + i) = .error .overflow :=
          run_eq_overflow_iff.2 (run_eq_overflow_iff.1 here)
        cases large.symm.trans answer
      | endless =>
        obtain before | rfl := Nat.lt_or_eq_of_le least
        · exact absurd here (ends j before)
        · cases here.symm.trans answer
    | ok results =>
      obtain ⟨length, each⟩ := runsFrom_eq_ok_iff.1 all
      have found : results[i]? = some (results.get ⟨i, by omega⟩) := List.getElem?_eq_getElem _
      cases (each i _ found).symm.trans answer

theorem runAll_add {s : UInt64} (seed : c.seed = some s) (rules : RuleSet)
    (entropy entropy' : ℕ → UInt64) {a b : ℕ} (sum : c.runs = a + b) :
    c.runAll entropy rules = (do
      let front ← { c with runs := a }.runAll entropy' rules
      let back ← { c.seeded ((s.toNat + a) % 2 ^ 64) with runs := b }.runAll entropy' rules
      return front ++ back) := by
  have front : { c with runs := a }.runAll entropy' rules = c.runsFrom entropy rules 0 a := by
    rw [runAll, runsFrom_with_runs]
    exact runsFrom_entropy seed rules entropy' entropy 0 a
  have back : { c.seeded ((s.toNat + a) % 2 ^ 64) with runs := b }.runAll entropy' rules =
      c.runsFrom entropy rules (0 + a) b := by
    have moved := runsFrom_seeded c rules entropy entropy' s.toNat a 0 b
    rw [seeded_toNat seed] at moved
    rw [runAll, runsFrom_with_runs, seeded_mod, ← moved, Nat.zero_add, Nat.add_zero]
  rw [front, back, runAll, sum, runsFrom_add]

/-- The results of several runs are those of single runs whose seeds count up and wrap around. What
keeps the first of these from its result keeps all of them from theirs. So they fail if and only if
some single run fails and no run before it goes on for ever, which takes that there is no limit and
that the world never comes to rest. And more runs continue fewer ones. -/
theorem runAll_repeats_single_runs {s : UInt64} (seed : c.seed = some s) (rules : RuleSet)
    (entropy entropy' : ℕ → UInt64) :
    let single := fun i => (c.seeded ((s.toNat + i) % 2 ^ 64)).run entropy' rules 0
    (∀ results, c.runAll entropy rules = .ok results ↔
      results.length = c.runs ∧ ∀ i r, results[i]? = some r → single i = .ok r) ∧
    ((∃ e, c.runAll entropy rules = .error (.failure e)) ↔
      ∃ i < c.runs, (∃ e, single i = .error (.failure e)) ∧ ∀ j < i, single j ≠ .error .endless) ∧
    (∀ o, c.runAll entropy rules = .error o ↔
      ∃ i < c.runs, single i = .error o ∧ ∀ j < i, ∃ r, single j = .ok r) ∧
    (∀ i, single i = .error .endless ↔ c.maxIterations = none ∧ ∃ start,
      (c.seeded ((s.toNat + i) % 2 ^ 64)).worldOfRun entropy' rules 0 = .ok start ∧
        start.NeverRests) ∧
    ∀ a b, c.runs = a + b → c.runAll entropy rules = (do
      let front ← { c with runs := a }.runAll entropy' rules
      let back ← { c.seeded ((s.toNat + a) % 2 ^ 64) with runs := b }.runAll entropy' rules
      return front ++ back) := by
  intro single
  have alone : ∀ i, c.run entropy rules (0 + i) = single i := by
    intro i
    have moved := run_seeded c rules entropy entropy' s.toNat i 0
    rw [seeded_toNat seed] at moved
    rw [Nat.zero_add]
    exact moved.trans (by rw [← seeded_mod])
  refine ⟨fun results => ?_, ?_, fun o => ?_, fun i => run_eq_endless_iff,
    fun a b => runAll_add seed rules entropy entropy'⟩
  · simp only [runAll, runsFrom_eq_ok_iff, alone]
  · simp only [runAll, exists_runsFrom_eq_failure_iff, alone]
  · simp only [runAll, runsFrom_eq_error_iff, alone]

def wrapping : Config :=
  { ofSize 1 1 with runs := 2, seed := some 0xFFFFFFFFFFFFFFFF, maxIterations := some 3 }

/-- In the first run nothing grows, in the second one a fire burns out. -/
theorem runAll_repeats_single_runs_wrapping :
    wrapping.seed = some 0xFFFFFFFFFFFFFFFF ∧ ∃ first second,
      wrapping.runAll (fun _ => 0) forestRules = .ok [first, second] ∧ first.iterations = 1 ∧
      second.iterations = 2 ∧
      (wrapping.seeded 0xFFFFFFFFFFFFFFFF).run (fun _ => 1) forestRules 0 = .ok first ∧
      (wrapping.seeded 0).run (fun _ => 1) forestRules 0 = .ok second := by
  have told : (wrapping.runAll (fun _ => 0) forestRules).toOption.map (·.map RunResult.iterations) =
      some [1, 2] := by
    decide +kernel
  have seed : wrapping.seed = some 0xFFFFFFFFFFFFFFFF := rfl
  obtain ⟨results, found, iterations⟩ := Option.map_eq_some_iff.1 told
  cases answer : wrapping.runAll (fun _ => 0) forestRules with
  | error e =>
    rw [answer] at found
    cases found
  | ok results =>
    rw [answer] at found
    cases found
    obtain ⟨length, each⟩ :=
      ((runAll_repeats_single_runs seed forestRules (fun _ => 0) fun _ => 1).1 results).1 answer
    obtain ⟨first, second, rfl⟩ := List.length_eq_two.1 length
    injection iterations with one rest
    injection rest with two
    exact ⟨seed, first, second, rfl, one, two, each 0 first rfl, each 1 second rfl⟩

end CellularAutomaton.Config
