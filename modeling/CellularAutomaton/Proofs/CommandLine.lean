import CellularAutomaton.CommandLine.Program
import CellularAutomaton.Proofs.Drawing

/-!
# The command with and without drawing

Asking for drawing changes nothing but what is written before the report. The switch may stand in
front of all other arguments. Then the same files are read, the same runs are made, and the report
is the same; and the command fails if it fails without the switch.
-/

namespace CellularAutomaton.CommandLine

/-! ## Reading the switch -/

namespace Given

variable {g last : Given}

def drawing (g : Given) : Given := { g with draw := true }

theorem setting_drawing {o : Setting} {value : String} (done : g.setting o value = .ok last) :
    last.draw = g.draw ∧ g.drawing.setting o value = .ok last.drawing := by
  cases o <;>
  · simp only [setting, bind_eq_ok] at done ⊢
    obtain ⟨a, read, same⟩ := done
    cases same
    exact ⟨rfl, a, read, rfl⟩

theorem switch_drawing {o : Switch} (done : g.switch o = .ok last) (off : last.draw = false) :
    g.draw = false ∧ g.drawing.switch o = .ok last.drawing := by
  cases o with
  | strict | json =>
    unfold switch at done ⊢
    dsimp only at done
    split_ifs at done with before
    cases done
    exact ⟨off, if_neg before⟩
  | draw =>
    unfold switch at done
    dsimp only at done
    split_ifs at done
    cases done
    cases off
  | verbose =>
    cases done
    exact ⟨off, rfl⟩
  | help | version => cases done

theorem operand_drawing {s : String} (done : g.operand s = .ok last) :
    last.draw = g.draw ∧ g.drawing.operand s = .ok last.drawing := by
  unfold operand at done ⊢
  show _ ∧ (if g.rules.isNone then _ else if g.width.isNone then _ else _) = _
  split_ifs at done ⊢ <;>
  · simp only [bind_eq_ok] at done ⊢
    obtain ⟨a, read, same⟩ := done
    cases same
    exact ⟨rfl, a, read, rfl⟩

end Given

variable {g last : Given} {expecting next : Expecting}

theorem map_drawing {f : Given → Except Stop Given}
    (reads : ∀ g last, f g = .ok last → last.draw = false →
      g.draw = false ∧ f g.drawing = .ok last.drawing)
    (done : (f g).map (·, expecting) = .ok (last, next)) (off : last.draw = false) :
    g.draw = false ∧ (f g.drawing).map (·, expecting) = .ok (last.drawing, next) := by
  obtain ⟨given, read, same⟩ := map_eq_ok.1 done
  cases same
  obtain ⟨off, read'⟩ := reads g _ read off
  exact ⟨off, by rw [read']; rfl⟩

theorem map_setting_drawing {o : Setting} {value : String}
    (done : (g.setting o value).map (·, expecting) = .ok (last, next)) (off : last.draw = false) :
    g.draw = false ∧ (g.drawing.setting o value).map (·, expecting) = .ok (last.drawing, next) := by
  refine map_drawing (f := (·.setting o value)) (fun g last read off => ?_) done off
  obtain ⟨kept, read'⟩ := Given.setting_drawing read
  exact ⟨kept ▸ off, read'⟩

theorem map_operand_drawing {s : String}
    (done : (g.operand s).map (·, expecting) = .ok (last, next)) (off : last.draw = false) :
    g.draw = false ∧ (g.drawing.operand s).map (·, expecting) = .ok (last.drawing, next) := by
  refine map_drawing (f := (·.operand s)) (fun g last read off => ?_) done off
  obtain ⟨kept, read'⟩ := Given.operand_drawing read
  exact ⟨kept ▸ off, read'⟩

theorem readLong_drawing {name : String} {value : Option String}
    (done : readLong g name value = .ok (last, next)) (off : last.draw = false) :
    g.draw = false ∧ readLong g.drawing name value = .ok (last.drawing, next) := by
  unfold readLong at done ⊢
  split at done
  · exact map_setting_drawing done off
  · cases done
    exact ⟨off, rfl⟩
  · exact map_drawing (fun g last => Given.switch_drawing) done off
  · cases done

theorem readLetters_drawing {cs : List Char} (done : readLetters g cs = .ok (last, next))
    (off : last.draw = false) :
    g.draw = false ∧ readLetters g.drawing cs = .ok (last.drawing, next) := by
  induction cs generalizing g with
  | nil =>
    cases done
    exact ⟨off, rfl⟩
  | cons c cs ih =>
    unfold readLetters at done ⊢
    split at done
    · split at done
      · cases done
        exact ⟨off, rfl⟩
      · exact map_setting_drawing done off
      · exact map_setting_drawing done off
    · simp only [bind_eq_ok] at done ⊢
      obtain ⟨given, read, rest⟩ := done
      obtain ⟨off, rest'⟩ := ih rest
      obtain ⟨off, read'⟩ := Given.switch_drawing read off
      exact ⟨off, given.drawing, read', rest'⟩
    · cases done

theorem readArgument_drawing {arg : String} (done : readArgument g expecting arg = .ok (last, next))
    (off : last.draw = false) :
    g.draw = false ∧ readArgument g.drawing expecting arg = .ok (last.drawing, next) := by
  unfold readArgument at done ⊢
  split at done
  · exact map_operand_drawing done off
  · cases done
    exact ⟨off, rfl⟩
  · exact readLong_drawing done off
  · exact readLetters_drawing done off
  · exact map_operand_drawing done off
  · split_ifs at done ⊢
    exact map_setting_drawing done off
  · exact map_setting_drawing done off

theorem readArguments_drawing {args : List String}
    (done : readArguments g expecting args = .ok last) (off : last.draw = false) :
    g.draw = false ∧ readArguments g.drawing expecting args = .ok last.drawing := by
  induction args generalizing g expecting with
  | nil =>
    cases expecting with
    | value o => cases done
    | any | operand =>
      cases done
      exact ⟨off, rfl⟩
  | cons arg args ih =>
    simp only [readArguments, bind_eq_ok] at done ⊢
    obtain ⟨⟨given, next⟩, read, rest⟩ := done
    obtain ⟨off, rest'⟩ := ih rest
    obtain ⟨off, read'⟩ := readArgument_drawing read off
    exact ⟨off, (given.drawing, next), read', rest'⟩

/-- Drawing may be asked for in front of all other arguments. -/
theorem read_draw {args : List String} (done : read args = .ok g) (draw : g.draw = false)
    (json : g.json = false) :
    read ("--draw" :: args) = .ok g.drawing := by
  simp only [read, bind_eq_ok] at done ⊢
  obtain ⟨given, arguments, done⟩ := done
  split_ifs at done with complete
  cases done
  refine ⟨g.drawing, ?_, ?_⟩
  · exact (readArguments_drawing arguments draw).2
  · rw [if_pos]
    · rfl
    · simpa [Given.isComplete, Given.drawing, json, draw] using complete

/-! ## What the command does -/

namespace Given

variable {files : Files} {entropy : ℕ → UInt64} {g : Given} {c : Config} {rules : RuleSet}

theorem simulate_snd (g : Given) (entropy : ℕ → UInt64) (c : Config) (rules : RuleSet) :
    (g.simulate entropy c rules).2 = c.runAll entropy rules := by
  unfold simulate Config.runAll
  split_ifs
  · exact c.drawnRunsFrom_snd entropy rules 0 c.runs
  · rfl

theorem simulate_fst (off : g.draw = false) : (g.simulate entropy c rules).1 = [] := by
  simp [simulate, off]

theorem simulate_drawing_fst {results : List RunResult}
    (done : c.runAll entropy rules = .ok results) :
    (g.drawing.simulate entropy c rules).1 =
      (List.range c.runs).flatMap fun i => (c.drawnRun entropy rules i).1 := by
  rw [List.range_eq_range', ← Config.drawnRunsFrom_fst done]
  rfl

theorem stopped_exitCode (g : Given) (output : String) (o : Obstacle) :
    (g.stopped output o).exitCode ≠ some 0 := by
  cases o <;> simp [stopped, Outcome.failed]

theorem run_of_loaded (configured : g.configure files = .ok c)
    (loaded : loadRules files c (g.rules.getD "") = .ok rules) :
    (∀ o, (c.runAll entropy rules).bind g.report = .error o →
      g.run files entropy = g.stopped (String.join (g.simulate entropy c rules).1) o) ∧
    ∀ report, (c.runAll entropy rules).bind g.report = .ok report →
      g.run files entropy =
        ⟨some 0, String.join (g.simulate entropy c rules).1 ++ report ++ "\n", ""⟩ := by
  have read : (do
      let c ← g.configure files
      return (c, ← loadRules files c (g.rules.getD ""))) = Except.ok (c, rules) :=
    bind_eq_ok.2 ⟨c, configured, bind_eq_ok.2 ⟨rules, loaded, rfl⟩⟩
  have results := g.simulate_snd entropy c rules
  rcases simulated : g.simulate entropy c rules with ⟨blocks, outcome⟩
  rw [simulated] at results
  rw [← results]
  constructor
  · intro o ended
    simp only [run, read, simulated, ended]
  · intro report told
    simp only [run, read, simulated, told]

/-- The command succeeds if its files can be read, all runs succeed, and so does the report. -/
theorem run_exitCode :
    (g.run files entropy).exitCode = some 0 ↔ ∃ c rules results report,
      g.configure files = .ok c ∧ loadRules files c (g.rules.getD "") = .ok rules ∧
        c.runAll entropy rules = .ok results ∧ g.report results = .ok report := by
  cases configured : g.configure files with
  | error f => simp [run, configured, Outcome.failed, bind, Except.bind]
  | ok c =>
    cases loaded : loadRules files c (g.rules.getD "") with
    | error f => simp [run, configured, loaded, Outcome.failed, bind, Except.bind]
    | ok rules =>
      cases ended : (c.runAll entropy rules).bind g.report with
      | error o =>
        rw [(run_of_loaded configured loaded).1 o ended]
        refine iff_of_false (g.stopped_exitCode _ o) ?_
        rintro ⟨_, _, results, report, ⟨⟩, loaded', done, told⟩
        rw [loaded] at loaded'
        cases loaded'
        have both : (c.runAll entropy rules).bind g.report = .ok report :=
          bind_eq_ok.2 ⟨results, done, told⟩
        cases ended.symm.trans both
      | ok report =>
        rw [(run_of_loaded configured loaded).2 report ended]
        obtain ⟨results, done, told⟩ := bind_eq_ok.1 ended
        exact iff_of_true rfl ⟨c, rules, results, report, rfl, loaded, done, told⟩

theorem run_output {results : List RunResult} {report : String}
    (configured : g.configure files = .ok c)
    (loaded : loadRules files c (g.rules.getD "") = .ok rules)
    (done : c.runAll entropy rules = .ok results) (told : g.report results = .ok report) :
    (g.run files entropy).output = String.join (g.simulate entropy c rules).1 ++
      report ++ "\n" := by
  rw [(run_of_loaded configured loaded).2 report (bind_eq_ok.2 ⟨results, done, told⟩)]

theorem run_drawing_exitCode (seeded : ∀ c, g.configure files = .ok c → c.seed ≠ none)
    (entropy entropy' : ℕ → UInt64) :
    (g.drawing.run files entropy').exitCode = some 0 ↔
      (g.run files entropy).exitCode = some 0 := by
  rw [run_exitCode, run_exitCode]
  refine exists_congr fun c => exists_congr fun rules => exists_congr fun results => ?_
  refine exists_congr fun report => and_congr_right fun configured => and_congr_right fun _ => ?_
  obtain ⟨s, seed⟩ := Option.ne_none_iff_exists'.1 (seeded c configured)
  rw [Config.runAll_entropy seed rules entropy' entropy]
  rfl

/-- The runs are shown one after another, and then follows what is written without drawing. -/
theorem run_drawing_output {results : List RunResult} {report : String} (off : g.draw = false)
    {s : UInt64} (seed : c.seed = some s) (configured : g.configure files = .ok c)
    (loaded : loadRules files c (g.rules.getD "") = .ok rules)
    (done : c.runAll entropy rules = .ok results) (told : g.report results = .ok report)
    (entropy' : ℕ → UInt64) :
    (g.drawing.run files entropy').output =
      String.join ((List.range c.runs).flatMap fun i => (c.drawnRun entropy' rules i).1) ++
        (g.run files entropy).output := by
  have done' : c.runAll entropy' rules = .ok results := by
    rw [Config.runAll_entropy seed rules entropy' entropy, done]
  have shown := run_output (g := g.drawing) configured loaded done' told
  have plain := run_output configured loaded done told
  rw [simulate_drawing_fst done', String.append_assoc] at shown
  rw [simulate_fst off, String.join_nil, String.empty_append] at plain
  rw [shown, plain]

end Given

/-- A drawn run comes to the result or the error of the run that is not drawn. With a seed, the
command with the switch for drawing succeeds if and only if it does without. Then it writes the runs
one after another, each with its first world and its rounds, and after that what it writes without
the switch. -/
theorem drawing_adds_blocks (files : Files) (entropy entropy' : ℕ → UInt64) :
    (∀ (c : Config) (rules : RuleSet), c.seed ≠ none →
      (∀ i, (c.drawnRun entropy' rules i).2 = c.run entropy rules i) ∧
      (∀ results, c.runAll entropy rules = .ok results →
        ∀ i r, results[i]? = some r → (c.drawnRun entropy' rules i).2 = .ok r) ∧
      ∀ o, c.runAll entropy rules = .error o →
        ∃ i < c.runs, (c.drawnRun entropy' rules i).2 = .error o) ∧
    ∀ args g, read args = .ok g → g.draw = false → g.json = false →
      (∀ c, g.configure files = .ok c → c.seed ≠ none) →
      read ("--draw" :: args) = .ok g.drawing ∧
      ∀ args', read args' = .ok g.drawing →
        ((run files entropy' args').exitCode = some 0 ↔
          (run files entropy args).exitCode = some 0) ∧
        ((run files entropy args).exitCode = some 0 → ∃ c rules results, g.configure files = .ok c ∧
          loadRules files c (g.rules.getD "") = .ok rules ∧ c.runAll entropy rules = .ok results ∧
          results.length = c.runs ∧ ∃ blocks : ℕ → List String,
            (∀ i r, results[i]? = some r → c.Shows entropy rules i r.iterations (blocks i)) ∧
            (run files entropy' args').output =
              String.join ((List.range c.runs).flatMap blocks) ++
                (run files entropy args).output) := by
  constructor
  · intro c rules seeded
    obtain ⟨s, seed⟩ := Option.ne_none_iff_exists'.1 seeded
    rw [Config.runAll_entropy seed rules entropy entropy']
    refine ⟨fun i => ?_, fun results done i r => Config.drawnRun_of_runAll_eq_ok done,
      fun o => Config.exists_drawnRun_of_runAll_eq_error⟩
    rw [c.drawnRun_snd, c.run_entropy seed rules entropy' entropy]
  intro args g reads draw json seeded
  refine ⟨read_draw reads draw json, fun args' reads' => ?_⟩
  have plain : run files entropy args = g.run files entropy := by rw [run, reads]
  have drawn : run files entropy' args' = g.drawing.run files entropy' := by rw [run, reads']
  rw [plain, drawn]
  refine ⟨Given.run_drawing_exitCode seeded entropy entropy', fun succeeds => ?_⟩
  obtain ⟨c, rules, results, report, configured, loaded, done, told⟩ :=
    Given.run_exitCode.1 succeeds
  obtain ⟨s, seed⟩ := Option.ne_none_iff_exists'.1 (seeded c configured)
  obtain ⟨length, each⟩ := Config.runsFrom_eq_ok_iff.1 done
  refine ⟨c, rules, results, configured, loaded, done, length,
    fun i => (c.drawnRun entropy' rules i).1, ?_,
      Given.run_drawing_output draw seed configured loaded done told entropy'⟩
  intro i r found
  have here : c.run entropy' rules i = .ok r := by
    rw [c.run_entropy seed rules entropy' entropy, ← each i r found, Nat.zero_add]
  exact (Config.drawnRun_shows here).of_seed seed entropy

def fireFiles : Files :=
  Files.ofDirectory
    [("fire.txt", "0,1,2\n0.5,0.25,0.25\n3\n1 -> 0\nmin 1: 1: 2 -> 1\ndefault -> x\n")]

/-- What is read from `fire.txt 1 1 --seed 0 -n 2`: two runs of a world of one cell. -/
def fireGiven : Given :=
  { rules := some "fire.txt", width := some 1, height := some 1, runs := some 2, seed := some 0 }

/-- In the first run a fire burns out, in the second one a tree has no fire next to it. -/
theorem drawing_adds_blocks_fire :
    read ["fire.txt", "1", "1", "--seed", "0", "-n", "2"] = .ok fireGiven ∧
      fireGiven.draw = false ∧ fireGiven.json = false ∧
      (∀ c, fireGiven.configure fireFiles = .ok c → c.seed ≠ none) ∧
      (run fireFiles (fun _ => 0)
        ["fire.txt", "1", "1", "--seed", "0", "-n", "2"]).exitCode = some 0 ∧
      (run fireFiles (fun _ => 1)
        ["--draw", "fire.txt", "1", "1", "--seed", "0", "-n", "2"]).exitCode = some 0 ∧
      ∃ blocks : ℕ → List String,
        (run fireFiles (fun _ => 1)
            ["--draw", "fire.txt", "1", "1", "--seed", "0", "-n", "2"]).output =
          String.join (blocks 0 ++ blocks 1) ++
            (run fireFiles (fun _ => 0) ["fire.txt", "1", "1", "--seed", "0", "-n", "2"]).output ∧
        ((fireGiven.override .standard).drawnRun (fun _ => 1) forestRules 0).2 =
          (fireGiven.override .standard).run (fun _ => 0) forestRules 0 := by
  have reads : read ["fire.txt", "1", "1", "--seed", "0", "-n", "2"] = .ok fireGiven := rfl
  have seed : (fireGiven.override .standard).seed ≠ none := by decide
  have seeded : ∀ c, fireGiven.configure fireFiles = .ok c → c.seed ≠ none := by
    intro c configured
    cases configured
    exact seed
  have succeeds : (run fireFiles (fun _ => 0)
      ["fire.txt", "1", "1", "--seed", "0", "-n", "2"]).exitCode = some 0 := by
    decide +kernel
  obtain ⟨runs, command⟩ := drawing_adds_blocks fireFiles (fun _ => 0) fun _ => 1
  obtain ⟨reads', drawn⟩ := command _ fireGiven reads rfl rfl seeded
  obtain ⟨same, shown⟩ := drawn _ reads'
  obtain ⟨c, rules, results, configured, -, -, -, blocks, -, output⟩ := shown succeeds
  cases configured
  have two : (List.range (fireGiven.override .standard).runs).flatMap blocks =
      blocks 0 ++ blocks 1 := by
    simp [fireGiven, Given.override, List.range_succ]
  rw [two] at output
  exact ⟨reads, rfl, rfl, seeded, succeeds, same.2 succeeds, blocks, output,
    (runs (fireGiven.override .standard) forestRules seed).1 0⟩

end CellularAutomaton.CommandLine
