import CellularAutomaton.Proofs.RuleFile.Format

/-!
# The first line that is wrong

A rule file is read line by line, and a line is looked at only if the lines above it are right. So
an error depends on nothing below the line that it names, a line is missing only if the text ends
above it, and the lines that follow the last rule never matter.
-/

namespace CellularAutomaton

open Text

/-- The line of the text that is wrong. A line that is missing is not in the text. -/
def RuleFileError.wrongLine? : RuleFileError → Option ℕ
  | malformedNumber line _ _ => some line
  | duplicateState line _ => some line
  | negativeProbability line _ => some line
  | unrecognizedRule line => some line
  | invalidExpression line _ => some line
  | duplicateDefault line => some line
  | missingLine _ => none
  | probabilityCount _ _ => none
  | probabilitySum _ _ => none
  | missingDefault => none

/-- The probabilities are not as many as the states, or do not sum to one. -/
inductive RuleFileError.Mismatch : RuleFileError → Prop
  | count (states probabilities : ℕ) : Mismatch (.probabilityCount states probabilities)
  | sum (sum tolerance : Float) : Mismatch (.probabilitySum sum tolerance)

variable {x : RuleFileError}

/-! ## What is read from one line -/

theorem readField_wrongLine {α : Type} {read? : List Char → Option α}
    {field : NumberField} {line : ℕ} {cs : List Char}
    (stops : readField read? field line cs = .error x) : x.wrongLine? = some line := by
  unfold readField at stops
  split at stops <;> cases stops
  rfl

namespace RuleLine

variable {line : ℕ}

theorem readNeighbor_wrongLine {c : Comparison} {threshold neighbor target : List Char}
    {source : Option (List Char)}
    (stops : readNeighbor line c threshold neighbor source target = .error x) :
    x.wrongLine? = some line := by
  rw [readNeighbor_eq] at stops
  obtain stops | ⟨u, -, stops⟩ := bind_eq_error.1 stops
  · exact readField_wrongLine stops
  obtain stops | ⟨n, -, stops⟩ := bind_eq_error.1 stops
  · exact readField_wrongLine stops
  obtain stops | ⟨s, -, stops⟩ := bind_eq_error.1 stops
  · cases source with
    | none => cases stops
    | some cs => exact readField_wrongLine (map_eq_error.1 stops)
  obtain stops | ⟨t, -, stops⟩ := bind_eq_error.1 stops
  · exact readField_wrongLine stops
  · cases stops

theorem readCondition_wrongLine {condition target : List Char}
    (stops : readCondition line condition target = .error x) : x.wrongLine? = some line := by
  unfold readCondition at stops
  split at stops
  · cases stops
    rfl
  · split at stops
    · exact readNeighbor_wrongLine stops
    · exact readNeighbor_wrongLine stops
    · cases stops
      rfl

theorem readSides_wrongLine {source target : List Char}
    (stops : readSides line source target = .error x) :
    x.wrongLine? = some line := by
  unfold readSides at stops
  split_ifs at stops
  · split at stops <;> cases stops
    rfl
  · split at stops
    · exact readField_wrongLine (map_eq_error.1 stops)
    · exact readCondition_wrongLine stops

theorem read_wrongLine {text : List Char} (stops : read line text = .error x) :
    x.wrongLine? = some line := by
  unfold RuleLine.read at stops
  split at stops
  · cases stops
    rfl
  · exact readSides_wrongLine stops

end RuleLine

namespace RuleFile

theorem readStates_wrongLine {seen : List State} {fields : List (List Char)}
    (stops : readStates seen fields = .error x) : x.wrongLine? = some 1 := by
  induction fields generalizing seen with
  | nil => cases stops
  | cons field fields ih =>
    obtain stops | ⟨s, -, stops⟩ := bind_eq_error.1 stops
    · exact readField_wrongLine stops
    split_ifs at stops
    · cases stops
      rfl
    · obtain stops | ⟨ss, -, stops⟩ := bind_eq_error.1 stops
      · exact ih stops
      · cases stops

theorem readProbability_wrongLine {field : List Char} (stops : readProbability field = .error x) :
    x.wrongLine? = some 2 := by
  obtain stops | ⟨p, -, stops⟩ := bind_eq_error.1 stops
  · exact readField_wrongLine stops
  split_ifs at stops <;> cases stops
  rfl

theorem readProbabilities_wrongLine {fields : List (List Char)}
    (stops : readProbabilities fields = .error x) :
    x.wrongLine? = some 2 := by
  induction fields with
  | nil => cases stops
  | cons field fields ih =>
    obtain stops | ⟨p, -, stops⟩ := bind_eq_error.1 stops
    · exact readProbability_wrongLine stops
    obtain stops | ⟨ps, -, stops⟩ := bind_eq_error.1 stops
    · exact ih stops
    · cases stops

theorem checkProbabilities_mismatch {tolerance : Float} {states : List State} {ps : List Float}
    (stops : checkProbabilities tolerance states ps = .error x) : x.Mismatch := by
  unfold checkProbabilities at stops
  split_ifs at stops
  · cases stops
    exact .count _ _
  · cases stops
    exact .sum _ _

theorem readCount_wrongLine {text : List Char} (stops : readCount text = .error x) :
    x.wrongLine? = some 3 := by
  obtain stops | ⟨n, -, stops⟩ := bind_eq_error.1 stops
  · exact readField_wrongLine stops
  split_ifs at stops <;> cases stops
  rfl

/-! ## The rules, line by line -/

/-- Reads one rule. It may not be a default rule if there is one already. -/
def readRule (line : ℕ) (hasDefault : Bool) (text : List Char) : Except RuleFileError RuleLine := do
  let rule ← RuleLine.read line (lowercase text)
  if hasDefault && rule.isFallback then throw (.duplicateDefault line)
  return rule

theorem readRule_wrongLine {line : ℕ} {hasDefault : Bool} {text : List Char}
    (stops : readRule line hasDefault text = .error x) : x.wrongLine? = some line := by
  obtain stops | ⟨rule, -, stops⟩ := bind_eq_error.1 stops
  · exact RuleLine.read_wrongLine stops
  split_ifs at stops <;> cases stops
  rfl

theorem readRules_cons (line : ℕ) (hasDefault : Bool) (n : ℕ) (text : List Char)
    (ls : List (List Char)) :
    readRules line hasDefault (n + 1) (text :: ls) =
      (readRule line hasDefault text).bind fun rule =>
      (readRules (line + 1) (hasDefault || rule.isFallback) n ls).map (rule :: ·) := by
  rw [readRules, readRule]
  cases RuleLine.read line (lowercase text) with
  | error x => rfl
  | ok rule =>
    change (if (hasDefault && rule.isFallback) = true then _ else _) = (Except.bind (ite _ _ _) _)
    split_ifs <;> rfl

theorem readRules_append {line : ℕ} {hasDefault : Bool} {before : List (List Char)}
    {rules : List RuleLine} (read : readRules line hasDefault before.length before = .ok rules)
    (n : ℕ) (ls : List (List Char)) :
    readRules line hasDefault (before.length + n) (before ++ ls) =
      (readRules (line + before.length) (hasDefault || rules.any RuleLine.isFallback) n ls).map
        (rules ++ ·) := by
  induction before generalizing line hasDefault rules with
  | nil =>
    cases read
    simp only [List.length_nil, Nat.zero_add, List.nil_append, List.any_nil, Bool.or_false,
      Nat.add_zero]
    cases readRules line hasDefault n ls <;> rfl
  | cons text before ih =>
    rw [List.length_cons, readRules_cons] at read
    obtain ⟨rule, first, read⟩ := bind_eq_ok.1 read
    obtain ⟨later, below, rfl⟩ := map_eq_ok.1 read
    have number : before.length + 1 + n = before.length + n + 1 := by omega
    have place : line + 1 + before.length = line + (before.length + 1) := by omega
    rw [List.length_cons, number, List.cons_append, readRules_cons, first, Except.bind, ih below,
      place, List.any_cons, Bool.or_assoc]
    cases readRules (line + (before.length + 1)) _ n ls <;> rfl

theorem exists_of_readRules_error {line : ℕ} {hasDefault : Bool} {n : ℕ} {ls : List (List Char)}
    (stops : readRules line hasDefault n ls = .error x) :
    ∃ before rules, readRules line hasDefault before.length before = .ok rules ∧ before.length < n ∧
      (ls = before ∧ x = .missingLine (line + before.length) ∨
        ∃ text after, ls = before ++ text :: after ∧
        readRule (line + before.length) (hasDefault || rules.any RuleLine.isFallback) text =
          .error x) := by
  induction n generalizing line hasDefault ls with
  | zero => cases ls <;> cases stops
  | succ n ih =>
    cases ls with
    | nil =>
      cases stops
      exact ⟨[], [], rfl, n.succ_pos, .inl ⟨rfl, rfl⟩⟩
    | cons text ls =>
      rw [readRules_cons] at stops
      obtain stops | ⟨rule, first, stops⟩ := bind_eq_error.1 stops
      · exact ⟨[], [], rfl, n.succ_pos, .inr ⟨text, ls, rfl, by simpa using stops⟩⟩
      · obtain ⟨before, rules, read, more, ends⟩ := ih (map_eq_error.1 stops)
        -- below the first line the count of lines and the flag for a default rule have gone on by
        -- one
        have place : line + 1 + before.length = line + (before.length + 1) := by omega
        rw [place, Bool.or_assoc, ← List.any_cons] at ends
        refine ⟨text :: before, rule :: rules, ?_, Nat.succ_lt_succ more, ?_⟩
        · rw [List.length_cons, readRules_cons, first, Except.bind, read]
          rfl
        · exact ends.imp (.imp_left (congrArg (text :: ·))) fun ⟨text', after, same, stops⟩ =>
            ⟨text', after, congrArg (text :: ·) same, stops⟩

/-- Every line is a rule line by itself, and at most one of them is a default rule. -/
def AreRules (texts : List (List Char)) : Prop :=
  ∃ rules, List.Forall₂ (fun text rule => RuleLine.Written (lowercase text) rule) texts rules ∧
    rules.countP RuleLine.isFallback ≤ 1

theorem areRules_iff {texts : List (List Char)} (bare : ∀ l ∈ texts, Bare l) (line : ℕ) :
    AreRules texts ↔ ∃ rules, readRules line false texts.length texts = .ok rules := by
  simp only [readRules_eq_ok_iff bare]
  constructor
  · rintro ⟨rules, written, single⟩
    exact ⟨rules, texts, [], (List.append_nil _).symm, rfl, written, single⟩
  · rintro ⟨rules, texts', rest, same, number, written, single⟩
    obtain ⟨rfl, -⟩ := List.append_inj (same.symm.trans (List.append_nil texts).symm) number
    exact ⟨rules, written, single⟩

/-! ## The file, part by part -/

def fromCount (states : List State) (probabilities : List Float) :
    List (List Char) → Except RuleFileError RuleSet
  | [] => .error (.missingLine 3)
  | third :: ls => do
    let count ← readCount third
    let rules ← readRules 4 false count ls
    match defaultRule? rules with
    | some e => return ⟨states, probabilities, simpleRules rules, neighborRules rules, e⟩
    | none => throw .missingDefault

def fromProbabilities (tolerance : Float) (states : List State) :
    List (List Char) → Except RuleFileError RuleSet
  | [] => .error (.missingLine 2)
  | second :: ls => do
    let probabilities ← readProbabilities (second.splitOn ',')
    checkProbabilities tolerance states probabilities
    fromCount states probabilities ls

theorem ofLines_cons (tolerance : Float) (first : List Char) (ls : List (List Char)) :
    ofLines tolerance (first :: ls) =
      (readStates [] (first.splitOn ',')).bind fun states =>
        fromProbabilities tolerance states ls := by
  rcases ls with _ | ⟨second, _ | ⟨third, ls⟩⟩ <;> rfl

/-! ## Files that are refused -/

def Opens (tolerance : Float) (first second : List Char) : Prop :=
  ∃ states ps, readStates [] (first.splitOn ',') = .ok states ∧
    readProbabilities (second.splitOn ',') = .ok ps ∧
    checkProbabilities tolerance states ps = .ok ()

/-- No rule file begins with the lines, and the last of them shows it. -/
inductive Stops (tolerance : Float) : List (List Char) → RuleFileError → Prop
  | states {first : List Char} {x : RuleFileError}
      (stops : readStates [] (first.splitOn ',') = .error x) :
      Stops tolerance [first] x
  | probabilities {first second : List Char} {ss : List State} {x : RuleFileError}
      (states : readStates [] (first.splitOn ',') = .ok ss)
      (stops : readProbabilities (second.splitOn ',') = .error x) :
      Stops tolerance [first, second] x
  | mismatch {first second : List Char} {ss : List State} {ps : List Float} {x : RuleFileError}
      (states : readStates [] (first.splitOn ',') = .ok ss)
      (probabilities : readProbabilities (second.splitOn ',') = .ok ps)
      (stops : checkProbabilities tolerance ss ps = .error x) : Stops tolerance [first, second] x
  | count {first second third : List Char} {x : RuleFileError}
      (opens : Opens tolerance first second) (stops : readCount third = .error x) :
      Stops tolerance [first, second, third] x
  | rule {first second third text : List Char} {texts : List (List Char)}
      {rules : List RuleLine} {n : ℕ} {x : RuleFileError} (opens : Opens tolerance first second)
      (count : readCount third = .ok n) (read : readRules 4 false texts.length texts = .ok rules)
      (more : texts.length < n) (stops : readRule (4 + texts.length) (rules.any RuleLine.isFallback)
        text = .error x) :
      Stops tolerance (first :: second :: third :: (texts ++ [text])) x
  | fallback {first second third : List Char} {texts : List (List Char)} {rules : List RuleLine}
      (opens : Opens tolerance first second) (count : readCount third = .ok texts.length)
      (read : readRules 4 false texts.length texts = .ok rules) (none : defaultRule? rules = none) :
      Stops tolerance (first :: second :: third :: texts) .missingDefault

/-- The lines are right, but they are not yet a rule file. -/
inductive Lacks (tolerance : Float) : List (List Char) → Prop
  | states : Lacks tolerance []
  | probabilities {first : List Char} {ss : List State}
      (states : readStates [] (first.splitOn ',') = .ok ss) :
      Lacks tolerance [first]
  | count {first second : List Char} (opens : Opens tolerance first second) :
      Lacks tolerance [first, second]
  | rule {first second third : List Char} {texts : List (List Char)} {rules : List RuleLine} {n : ℕ}
      (opens : Opens tolerance first second) (count : readCount third = .ok n)
      (read : readRules 4 false texts.length texts = .ok rules) (more : texts.length < n) :
      Lacks tolerance (first :: second :: third :: texts)

variable {tolerance : Float} {ls known : List (List Char)}

theorem Opens.exists_fromCount {first second : List Char} (opens : Opens tolerance first second) :
    ∃ ss ps, ∀ ls, ofLines tolerance (first :: second :: ls) = fromCount ss ps ls := by
  obtain ⟨ss, ps, states, probabilities, checked⟩ := opens
  refine ⟨ss, ps, fun ls => ?_⟩
  simp only [ofLines_cons, fromProbabilities, states, probabilities, checked, bind, Except.bind]

theorem Stops.ofLines_eq (stops : Stops tolerance known x) (begins : known <+: ls) :
    ofLines tolerance ls = .error x := by
  obtain ⟨rest, rfl⟩ := begins
  cases stops with
  | states stops =>
    rw [List.singleton_append, ofLines_cons]
    exact bind_eq_error.2 (.inl stops)
  | probabilities states stops =>
    rw [List.cons_append, ofLines_cons]
    exact bind_eq_error.2 (.inr ⟨_, states, bind_eq_error.2 (.inl stops)⟩)
  | mismatch states probabilities stops =>
    rw [List.cons_append, ofLines_cons]
    exact bind_eq_error.2 (.inr ⟨_, states,
      bind_eq_error.2 (.inr ⟨_, probabilities, bind_eq_error.2 (.inl stops)⟩)⟩)
  | count opens stops =>
    obtain ⟨ss, ps, header⟩ := opens.exists_fromCount
    exact (header _).trans (bind_eq_error.2 (.inl stops))
  | @rule _ _ _ text texts rules n _ opens count read more stops =>
    obtain ⟨ss, ps, header⟩ := opens.exists_fromCount
    obtain ⟨m, rfl⟩ : ∃ m, n = texts.length + (m + 1) := ⟨n - texts.length - 1, by omega⟩
    have fails : readRules 4 false (texts.length + (m + 1)) (texts ++ [text] ++ rest) =
        .error x := by
      rw [List.append_assoc, readRules_append read, List.singleton_append, readRules_cons,
        Bool.false_or, stops]
      rfl
    exact (header _).trans (bind_eq_error.2 (.inr ⟨_, count, bind_eq_error.2 (.inl fails)⟩))
  | @fallback _ _ _ texts rules opens count read none =>
    obtain ⟨ss, ps, header⟩ := opens.exists_fromCount
    have reads : readRules 4 false texts.length (texts ++ rest) = .ok rules := by
      have more := readRules_append read 0 rest
      rw [Nat.add_zero] at more
      rw [more, readRules]
      exact congrArg Except.ok (List.append_nil rules)
    refine (header _).trans (bind_eq_error.2
      (.inr ⟨_, count, bind_eq_error.2 (.inr ⟨_, reads, ?_⟩)⟩))
    rw [none]
    rfl

theorem Lacks.ofLines_eq (lacks : Lacks tolerance ls) :
    ofLines tolerance ls = .error (.missingLine (ls.length + 1)) := by
  cases lacks with
  | states => rfl
  | probabilities states =>
    rw [ofLines_cons]
    exact bind_eq_error.2 (.inr ⟨_, states, rfl⟩)
  | count opens =>
    obtain ⟨ss, ps, header⟩ := opens.exists_fromCount
    exact header []
  | @rule _ _ _ texts rules n opens count read more =>
    obtain ⟨ss, ps, header⟩ := opens.exists_fromCount
    obtain ⟨m, rfl⟩ : ∃ m, n = texts.length + (m + 1) := ⟨n - texts.length - 1, by omega⟩
    have fails : readRules 4 false (texts.length + (m + 1)) texts =
        .error (.missingLine (4 + texts.length)) := by
      have ends := readRules_append read (m + 1) []
      rwa [List.append_nil] at ends
    have place : texts.length + 1 + 1 + 1 + 1 = 4 + texts.length := by omega
    rw [header, List.length_cons, List.length_cons, List.length_cons, place]
    exact bind_eq_error.2 (.inr ⟨_, count, bind_eq_error.2 (.inl fails)⟩)

/-- The lines below the rules are not looked at. -/
theorem exists_of_readRules_ok (bare : ∀ l ∈ ls, Bare l) {line n : ℕ} {hasDefault : Bool}
    {rules : List RuleLine} (read : readRules line hasDefault n ls = .ok rules) :
    ∃ texts rest, ls = texts ++ rest ∧ texts.length = n ∧
      readRules line hasDefault n texts = .ok rules := by
  obtain ⟨texts, rest, rfl, number, written, single⟩ := (readRules_eq_ok_iff bare).1 read
  have bareTexts : ∀ l ∈ texts, Bare l := fun l inside => bare l (List.mem_append_left _ inside)
  exact ⟨texts, rest, rfl, number,
    (readRules_eq_ok_iff bareTexts).2
      ⟨texts, [], (List.append_nil _).symm, number, written, single⟩⟩

theorem Opens.exists_of_error {first second : List Char} {ss : List State} {ps : List Float}
    (opens : Opens tolerance first second) (bare : ∀ l ∈ ls, Bare l)
    (failed : fromCount ss ps ls = .error x) :
    (∃ known, known <+: first :: second :: ls ∧ Stops tolerance known x) ∨
      Lacks tolerance (first :: second :: ls) ∧ x = .missingLine (ls.length + 3) := by
  rcases ls with _ | ⟨third, ls⟩
  · cases failed
    exact .inr ⟨.count opens, rfl⟩
  obtain stops | ⟨n, count, fromRules⟩ := bind_eq_error.1 failed
  · exact .inl ⟨[first, second, third], ⟨ls, rfl⟩, .count opens stops⟩
  obtain fails | ⟨rules, read, finish⟩ := bind_eq_error.1 fromRules
  · obtain ⟨texts, rules, read, more, ⟨rfl, rfl⟩ | ⟨text, after, rfl, stops⟩⟩ :=
      exists_of_readRules_error fails
    · have place : 4 + ls.length = ls.length + 1 + 3 := by omega
      exact .inr ⟨.rule opens count read more, congrArg _ place⟩
    · exact .inl ⟨_, ⟨after, by simp⟩, .rule opens count read more stops⟩
  · obtain ⟨texts, rest, rfl, rfl, read⟩ :=
      exists_of_readRules_ok (List.forall_mem_cons.1 bare).2 read
    split at finish
    · cases finish
    · next none =>
      cases finish
      exact .inl ⟨_, ⟨rest, rfl⟩, .fallback opens count read none⟩

/-- A file is refused for its first lines, or since there is no line below them. -/
theorem ofLines_eq_error_iff (bare : ∀ l ∈ ls, Bare l) : ofLines tolerance ls = .error x ↔
    (∃ known, known <+: ls ∧ Stops tolerance known x) ∨ Lacks tolerance ls ∧
    x = .missingLine (ls.length + 1) := by
  constructor
  · intro failed
    rcases ls with _ | ⟨first, ls⟩
    · cases failed
      exact .inr ⟨.states, rfl⟩
    rw [ofLines_cons] at failed
    obtain stops | ⟨ss, states, fromSecond⟩ := bind_eq_error.1 failed
    · exact .inl ⟨[first], ⟨ls, rfl⟩, .states stops⟩
    rcases ls with _ | ⟨second, ls⟩
    · cases fromSecond
      exact .inr ⟨.probabilities states, rfl⟩
    obtain stops | ⟨ps, probabilities, check⟩ := bind_eq_error.1 fromSecond
    · exact .inl ⟨[first, second], ⟨ls, rfl⟩, .probabilities states stops⟩
    obtain stops | ⟨⟨⟩, checked, fromThird⟩ := bind_eq_error.1 check
    · exact .inl ⟨[first, second], ⟨ls, rfl⟩, .mismatch states probabilities stops⟩
    have opens : Opens tolerance first second := ⟨ss, ps, states, probabilities, checked⟩
    exact opens.exists_of_error (fun l inside => bare l (by simp [inside])) fromThird
  · rintro (⟨known, begins, stops⟩ | ⟨lacks, rfl⟩)
    · exact stops.ofLines_eq begins
    · exact lacks.ofLines_eq

/-! ## How far a file is read -/

/-- The line that an error names is the last that is looked at. Of the other errors, those about the
probabilities come before the third line is looked at, and only that of the default rule after all
rules. -/
theorem Stops.extent (stops : Stops tolerance known x) :
    x.wrongLine? = some known.length ∨ x.Mismatch ∧ known.length = 2 ∨ x = .missingDefault ∧
      ∃ first second third texts, known = first :: second :: third :: texts ∧
        Reads Numeral.readSize? third texts.length := by
  cases stops with
  | states stops => exact .inl (readStates_wrongLine stops)
  | probabilities _ stops => exact .inl (readProbabilities_wrongLine stops)
  | mismatch _ _ stops => exact .inr (.inl ⟨checkProbabilities_mismatch stops, rfl⟩)
  | count _ stops => exact .inl (readCount_wrongLine stops)
  | @rule _ _ _ text texts _ _ _ _ _ _ _ stops =>
    have length : (text :: texts).length + 3 = 4 + texts.length := by
      rw [List.length_cons]
      omega
    rw [readRule_wrongLine stops, ← length]
    simp
  | fallback _ count _ _ =>
    exact .inr (.inr ⟨rfl, _, _, _, _, rfl, (readCount_eq_ok_iff.1 count).1⟩)

theorem Stops.length_of_wrongLine {n : ℕ} (stops : Stops tolerance known x)
    (wrong : x.wrongLine? = some n) :
    known.length = n := by
  obtain named | ⟨mismatch, -⟩ | ⟨rfl, -⟩ := stops.extent
  · rw [named] at wrong
    exact Option.some.inj wrong
  · cases mismatch <;> cases wrong
  · cases wrong

/-- The lines above a wrong rule line are rule lines, and together with it they are not. -/
theorem Stops.areRules (stops : Stops tolerance known x) (bare : ∀ l ∈ known, Bare l) {n : ℕ}
    (wrong : x.wrongLine? = some n) (low : 4 ≤ n) :
    AreRules ((known.take (n - 1)).drop 3) ∧ ¬AreRules (known.drop 3) := by
  have length := stops.length_of_wrongLine wrong
  cases stops with
  | @rule first second third text texts rules m _ opens count read more stops =>
    have all : ∀ l ∈ texts ++ [text], Bare l := fun l inside =>
      bare l (List.mem_cons_of_mem _ (List.mem_cons_of_mem _ (List.mem_cons_of_mem _ inside)))
    have good : AreRules texts :=
      (areRules_iff (fun l inside => all l (List.mem_append_left _ inside)) 4).2 ⟨rules, read⟩
    -- more rules are to come, so a reader that is to read no more than these would stop at the same
    -- line
    have bad : ¬AreRules (texts ++ [text]) := by
      rw [areRules_iff all 4]
      rintro ⟨rules', whole⟩
      rw [List.length_append, readRules_append read, List.length_singleton, readRules_cons,
        Bool.false_or, stops] at whole
      cases whole
    obtain rfl : n = texts.length + 4 := by simpa using length.symm
    refine ⟨?_, bad⟩
    simpa using good
  | fallback => cases wrong
  | states | probabilities | mismatch | count =>
    simp only [List.length_cons, List.length_nil] at length
    omega

theorem Describes.exists_known {r : RuleSet} (describes : Describes tolerance ls r) :
    ∃ first second third texts, first :: second :: third :: texts <+: ls ∧
      Reads Numeral.readSize? third texts.length ∧
      ∀ rest, Describes tolerance (first :: second :: third :: texts ++ rest) r := by
  cases describes with
  | @intro first second third texts rest rules r states distinct probabilities matching admissible
    total count small
      written simple neighbor fallback =>
    exact ⟨first, second, third, texts, ⟨rest, rfl⟩, count,
      fun _ => .intro states distinct probabilities matching
      admissible total count small written simple neighbor fallback⟩

end RuleFile

namespace RuleSet

open RuleFile

def SameLines (n : ℕ) (text text' : String) : Prop :=
  (text.toList.splitOn '\n').take n = (text'.toList.splitOn '\n').take n

variable {tolerance : Float} {text text' : String} {known : List (List Char)} {n : ℕ}

instance : Decidable (SameLines n text text') :=
  inferInstanceAs (Decidable ((text.toList.splitOn '\n').take n =
    (text'.toList.splitOn '\n').take n))

theorem SameLines.symm (same : SameLines n text text') : SameLines n text' text := Eq.symm same

theorem length_lines (text : List Char) : (lines text).length = (text.splitOn '\n').length :=
  List.length_map _

/-- What has been read of a text is also read in every text that begins like it. -/
theorem SameLines.begins (same : SameLines n text text') (length : known.length = n)
    (begins : known <+: lines text.toList) : known <+: lines text'.toList := by
  have here : known = (lines text'.toList).take n := by
    rw [List.prefix_iff_eq_take.1 begins, length, lines, ← List.map_take, same,
      List.map_take, ← lines]
  rw [here]
  exact List.take_prefix _ _

theorem SameLines.third {third : List Char} (same : SameLines (n + 3) text text')
    (found : (lines text.toList)[2]? = some third) : (lines text'.toList)[2]? = some third := by
  have agree : ((lines text'.toList).take (n + 3))[2]? =
      ((lines text.toList).take (n + 3))[2]? := by
    rw [lines, lines, ← List.map_take, ← List.map_take, same]
  rw [List.getElem?_take_of_lt (by omega), List.getElem?_take_of_lt (by omega)] at agree
  rw [agree, found]

theorem parse_of_stops {x : RuleFileError} (stops : Stops tolerance known x)
    (begins : known <+: lines text.toList) (length : known.length = n)
    (same : SameLines n text text') : parse tolerance text' = .error x :=
  stops.ofLines_eq (same.begins length begins)

theorem exists_of_parse_error {x : RuleFileError} (failed : parse tolerance text = .error x) :
    (∃ known, known <+: lines text.toList ∧ Stops tolerance known x) ∨
      x = .missingLine ((text.toList.splitOn '\n').length + 1) := by
  rw [← length_lines]
  exact ((ofLines_eq_error_iff bare_of_mem_lines).1 failed).imp_right And.right

theorem length_of_third {first second third third' : List Char} {texts : List (List Char)}
    (begins : first :: second :: third :: texts <+: lines text.toList)
    (count : Reads Numeral.readSize? third texts.length)
    (found : (lines text.toList)[2]? = some third') (number : Reads Numeral.readSize? third' n) :
    (first :: second :: third :: texts).length = n + 3 := by
  obtain ⟨rest, split⟩ := begins
  rw [← split] at found
  cases found
  have same : some texts.length = some n := (reads_iff.1 count).symm.trans (reads_iff.1 number)
  rw [List.length_cons, List.length_cons, List.length_cons, Option.some.inj same]

theorem parse_ok_of_sameLines {third : List Char} {r : RuleSet}
    (found : (lines text.toList)[2]? = some third) (number : Reads Numeral.readSize? third n)
    (same : SameLines (n + 3) text text') (parsed : parse tolerance text = .ok r) :
    parse tolerance text' = .ok r := by
  obtain ⟨first, second, third', texts, begins, count, describes⟩ :=
    (parse_eq_ok_iff.1 parsed).exists_known
  obtain ⟨rest, split⟩ := same.begins (length_of_third begins count found number) begins
  rw [parse_eq_ok_iff, ← split]
  exact describes rest

theorem parse_missingDefault_of_sameLines {third : List Char}
    (found : (lines text.toList)[2]? = some third) (number : Reads Numeral.readSize? third n)
    (same : SameLines (n + 3) text text') (failed : parse tolerance text = .error .missingDefault) :
    parse tolerance text' = .error .missingDefault := by
  obtain ⟨known, begins, stops⟩ | missing := exists_of_parse_error failed
  · obtain wrong | ⟨mismatch, -⟩ | ⟨-, first, second, third', texts, rfl, count⟩ := stops.extent
    · cases wrong
    · cases mismatch
    · exact parse_of_stops stops begins (length_of_third begins count found number) same
  · cases missing

theorem parse_mismatch_of_sameLines {x : RuleFileError} (mismatch : x.Mismatch)
    (same : SameLines 2 text text') (failed : parse tolerance text = .error x) :
    parse tolerance text' = .error x := by
  obtain ⟨known, begins, stops⟩ | rfl := exists_of_parse_error failed
  · obtain wrong | ⟨-, length⟩ | ⟨rfl, -⟩ := stops.extent
    · cases mismatch <;> cases wrong
    · exact parse_of_stops stops begins length same
    · cases mismatch
  · cases mismatch

/-- An error that names a line is about the first line that is wrong. All texts that are the same up
to this line have this error, and the rule lines above it are right, with at most one default rule
among them. A line is missing only if it would come next after the last line of the text. Whether
the probabilities fit is seen from the first two lines, and whether a file is right or has no
default rule is seen from the lines down to its last rule. -/
theorem parse_stops_at_first_wrong_line (tolerance : Float) (text : String) :
    (∀ x n, parse tolerance text = .error x → x.wrongLine? = some n →
      n ≤ (text.toList.splitOn '\n').length ∧
      (∀ text', SameLines n text text' → parse tolerance text' = .error x) ∧
      (4 ≤ n → AreRules (((lines text.toList).take (n - 1)).drop 3) ∧
        ¬AreRules (((lines text.toList).take n).drop 3))) ∧
    (∀ n, parse tolerance text = .error (.missingLine n) →
      (text.toList.splitOn '\n').length + 1 = n) ∧
    (∀ x text', x.Mismatch → SameLines 2 text text' →
      (parse tolerance text = .error x ↔ parse tolerance text' = .error x)) ∧
    (∀ third n text', (lines text.toList)[2]? = some third → Reads Numeral.readSize? third n →
      SameLines (n + 3) text text' →
      (∀ r, parse tolerance text = .ok r ↔ parse tolerance text' = .ok r) ∧
      (parse tolerance text = .error .missingDefault ↔
        parse tolerance text' = .error .missingDefault)) := by
  refine ⟨?_, ?_, ?_, ?_⟩
  · intro x n failed wrong
    obtain ⟨known, begins, stops⟩ | rfl := exists_of_parse_error failed
    · obtain rfl := stops.length_of_wrongLine wrong
      have whole : (lines text.toList).take known.length = known :=
        (List.prefix_iff_eq_take.1 begins).symm
      have above : (lines text.toList).take (known.length - 1) = known.take (known.length - 1) := by
        obtain ⟨rest, split⟩ := begins
        rw [← split, List.take_append_of_le_length (Nat.sub_le _ _)]
      refine ⟨length_lines text.toList ▸ begins.length_le,
        fun text' => parse_of_stops stops begins rfl, ?_⟩
      rw [whole, above]
      exact stops.areRules (fun l inside => bare_of_mem_lines l (begins.subset inside)) wrong
    · cases wrong
  · intro n failed
    obtain ⟨known, begins, stops⟩ | missing := exists_of_parse_error failed
    · obtain wrong | ⟨mismatch, -⟩ | ⟨none, -⟩ := stops.extent
      · cases wrong
      · cases mismatch
      · cases none
    · exact (RuleFileError.missingLine.inj missing).symm
  · intro x text' mismatch same
    exact ⟨parse_mismatch_of_sameLines mismatch same,
      parse_mismatch_of_sameLines mismatch same.symm⟩
  · intro third n text' found number same
    have found' := same.third found
    exact ⟨fun r => ⟨parse_ok_of_sameLines found number same,
      parse_ok_of_sameLines found' number same.symm⟩, parse_missingDefault_of_sameLines found number
        same, parse_missingDefault_of_sameLines found' number same.symm⟩

/-- The second of two rules is wrong, whatever follows it and however many rules there are to be. -/
theorem parse_stops_at_first_wrong_line_second :
    let text := "0,1\n.5,.5\n900\n0 -> 1 // birth\n1 -> y\ndefault -> x"
    let text' := "0,1\n.5,.5\n900\n0 -> 1 // birth\n1 -> y\nno rule\n1 -> z"
    let wrong := RuleFileError.malformedNumber 5 .targetState "y"
    parse 0.1 text = .error wrong ∧ wrong.wrongLine? = some 5 ∧ SameLines 5 text text' ∧
      parse 0.1 text' = .error wrong ∧ AreRules [['0', ' ', '-', '>', ' ', '1']] := by
  intro text text' wrong
  have failed : parse 0.1 text = .error wrong := by decide +kernel
  have same : SameLines 5 text text' := by decide +kernel
  obtain ⟨-, others, above⟩ := (parse_stops_at_first_wrong_line 0.1 text).1 wrong 5 failed rfl
  have line : ((lines text.toList).take 4).drop 3 = [['0', ' ', '-', '>', ' ', '1']] := by
    decide +kernel
  exact ⟨failed, rfl, same, others text' same, line ▸ (above (by decide)).1⟩

end RuleSet

end CellularAutomaton
