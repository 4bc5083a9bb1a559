import CellularAutomaton.Proofs.RuleFile.LineGrammar
import CellularAutomaton.RuleFile.Parser

/-!
# The format of rule files

A rule file describes a rule set if its first lines list the states, the probabilities and the
number of rules, and as many rule lines follow, exactly one of them with the default expression. The
parser accepts the texts that describe a rule set, and answers with this rule set.
-/

namespace CellularAutomaton

open Text

namespace RuleLine

def isSimple : RuleLine → Bool
  | simple _ => true
  | _ => false

def isNeighbor : RuleLine → Bool
  | neighbor _ => true
  | _ => false

end RuleLine

namespace RuleFile

/-- What a line of a rule file says: its comment is cut off, and it is trimmed. -/
def Content (line text : List Char) : Prop := ∃ code, Uncommented line code ∧ Trimmed code text

/-- The lines of a text lie between its newlines. -/
def Lines (text : List Char) (ls : List (List Char)) : Prop :=
  ∃ raw, Separated '\n' raw text ∧ List.Forall₂ Content raw ls

def Enumerates {α : Type} (read? : List Char → Option α) (line : List Char) (as : List α) : Prop :=
  ∃ fields, Separated ',' fields line ∧ List.Forall₂ (Reads read?) fields as

/-- The lines describe the rule set, whose probabilities sum to one within the tolerance. -/
inductive Describes (tolerance : Float) : List (List Char) → RuleSet → Prop
  | intro {first second third : List Char} {texts rest : List (List Char)} {rules : List RuleLine}
      {r : RuleSet} (states : Enumerates Numeral.readInt32? first r.states)
      (distinct : r.states.Nodup)
      (probabilities : Enumerates Numeral.readFloat? second r.probabilities)
      (matching : r.probabilities.length = r.states.length)
      (admissible : ∀ p ∈ r.probabilities, p.isFinite ∧ 0 ≤ p)
      (total : ¬(totalProbability r.probabilities - 1.0).abs > tolerance)
      (count : Reads Numeral.readSize? third texts.length)
      (small : texts.length + 3 < UInt64.size)
      (written : List.Forall₂ (fun text rule => RuleLine.Written (lowercase text) rule) texts rules)
      (simple : rules.filter RuleLine.isSimple = r.simpleRules.map .simple)
      (neighbor : rules.filter RuleLine.isNeighbor = r.neighborRules.map .neighbor)
      (fallback : rules.filter RuleLine.isFallback = [.fallback r.defaultRule]) :
      Describes tolerance (first :: second :: third :: (texts ++ rest)) r

/-! ## Lines -/

theorem content_eq_iff {line text : List Char} : content line = text ↔ Content line text := by
  constructor
  · intro same
    exact ⟨_, cutAtPair_getD_iff.1 rfl, trim_eq_iff.1 same⟩
  · rintro ⟨code, uncommented, trimmed⟩
    rw [content, cutAtPair_getD_iff.2 uncommented]
    exact trim_eq_iff.2 trimmed

theorem lines_eq_iff {text : List Char} {ls : List (List Char)} :
    lines text = ls ↔ Lines text ls := by
  have each : ∀ raw : List (List Char), List.Forall₂ Content raw ls ↔ raw.map content = ls := by
    intro raw
    rw [← List.forall₂_eq_eq_eq, List.forall₂_map_left_iff]
    exact ⟨.imp fun _ _ => content_eq_iff.2, .imp fun _ _ => content_eq_iff.1⟩
  simp only [Lines, each, ← splitOn_eq_iff, lines, exists_eq_left']

theorem bare_of_mem_lines {text : List Char} : ∀ l ∈ lines text, Bare l := by
  intro l inside
  obtain ⟨line, -, rfl⟩ := List.mem_map.1 inside
  exact (trimmed_trim _).bare

/-! ## The header -/

theorem readStates_eq_ok_iff {seen ss : List State} {fields : List (List Char)} :
    readStates seen fields = .ok ss ↔
      List.Forall₂ (Reads Numeral.readInt32?) fields ss ∧ ss.Nodup ∧ ∀ s ∈ ss, s ∉ seen := by
  induction fields generalizing seen ss with
  | nil => cases ss <;> simp [readStates]
  | cons field fields ih =>
    constructor
    · intro read
      obtain ⟨s, first, read⟩ := bind_eq_ok.1 read
      split_ifs at read with known
      · cases read
      · obtain ⟨later, rest, same⟩ := bind_eq_ok.1 read
        cases same
        obtain ⟨reads, distinct, new⟩ := ih.1 rest
        refine ⟨.cons (readField_eq_ok_iff.1 first) reads, List.nodup_cons.2 ⟨?_, distinct⟩, ?_⟩
        · exact fun inside => new s inside List.mem_cons_self
        · refine List.forall_mem_cons.2 ⟨known, fun t inside => ?_⟩
          exact fun already => new t inside (List.mem_cons_of_mem _ already)
    · rintro ⟨reads, distinct, new⟩
      cases reads with
      | @cons _ s _ ss first reads =>
        obtain ⟨fresh, distinct⟩ := List.nodup_cons.1 distinct
        obtain ⟨here, new⟩ := List.forall_mem_cons.1 new
        have later : readStates (s :: seen) fields = .ok ss := by
          refine ih.2 ⟨reads, distinct, fun t inside => ?_⟩
          rw [List.mem_cons, not_or]
          exact ⟨ne_of_mem_of_not_mem inside fresh, new t inside⟩
        refine bind_eq_ok.2 ⟨s, readField_eq_ok_iff.2 first, ?_⟩
        rw [if_neg here]
        exact bind_eq_ok.2 ⟨ss, later, rfl⟩

theorem readProbability_eq_ok_iff {field : List Char} {p : Float} :
    readProbability field = .ok p ↔ Reads Numeral.readFloat? field p ∧ p.isFinite ∧ 0 ≤ p := by
  constructor
  · intro read
    obtain ⟨q, number, read⟩ := bind_eq_ok.1 read
    split_ifs at read with holds
    cases read
    exact ⟨readField_eq_ok_iff.1 number, holds⟩
  · rintro ⟨number, holds⟩
    refine bind_eq_ok.2 ⟨p, readField_eq_ok_iff.2 number, ?_⟩
    rw [if_pos holds]
    rfl

theorem readProbabilities_eq_ok_iff {fields : List (List Char)} {ps : List Float} :
    readProbabilities fields = .ok ps ↔
      List.Forall₂ (Reads Numeral.readFloat?) fields ps ∧ ∀ p ∈ ps, p.isFinite ∧ 0 ≤ p := by
  induction fields generalizing ps with
  | nil => cases ps <;> simp [readProbabilities]
  | cons field fields ih =>
    constructor
    · intro read
      obtain ⟨p, first, read⟩ := bind_eq_ok.1 read
      obtain ⟨ps, later, same⟩ := bind_eq_ok.1 read
      cases same
      obtain ⟨number, holds⟩ := readProbability_eq_ok_iff.1 first
      obtain ⟨numbers, all⟩ := ih.1 later
      exact ⟨.cons number numbers, List.forall_mem_cons.2 ⟨holds, all⟩⟩
    · rintro ⟨numbers, all⟩
      cases numbers with
      | cons number numbers =>
        obtain ⟨holds, all⟩ := List.forall_mem_cons.1 all
        exact bind_eq_ok.2 ⟨_, readProbability_eq_ok_iff.2 ⟨number, holds⟩,
          bind_eq_ok.2 ⟨_, ih.2 ⟨numbers, all⟩, rfl⟩⟩

theorem checkProbabilities_eq_ok_iff {tolerance : Float} {states : List State} {ps : List Float} :
    checkProbabilities tolerance states ps = .ok () ↔
      ps.length = states.length ∧ ¬(totalProbability ps - 1.0).abs > tolerance := by
  unfold checkProbabilities
  split_ifs with differ far <;> simp_all

theorem readCount_eq_ok_iff {text : List Char} {n : ℕ} :
    readCount text = .ok n ↔ Reads Numeral.readSize? text n ∧ n + 3 < UInt64.size := by
  constructor
  · intro read
    obtain ⟨m, number, read⟩ := bind_eq_ok.1 read
    split_ifs at read with small
    cases read
    exact ⟨readField_eq_ok_iff.1 number, small⟩
  · rintro ⟨number, small⟩
    refine bind_eq_ok.2 ⟨n, readField_eq_ok_iff.2 number, ?_⟩
    rw [if_pos small]
    rfl

/-! ## The rules -/

theorem single_cons (hasDefault : Bool) (rule : RuleLine) (rules : List RuleLine) :
    (rule :: rules).countP RuleLine.isFallback + hasDefault.toNat ≤ 1 ↔
      (hasDefault && rule.isFallback) = false ∧
        rules.countP RuleLine.isFallback + (hasDefault || rule.isFallback).toNat ≤ 1 := by
  rw [List.countP_cons]
  cases hasDefault <;> cases rule.isFallback <;> simp

/-- As many lines are read as have been asked for, and at most one of them holds a default rule. -/
theorem readRules_eq_ok_iff {line : ℕ} {hasDefault : Bool} {n : ℕ} {ls : List (List Char)}
    {rules : List RuleLine} (bare : ∀ l ∈ ls, Bare l) :
    readRules line hasDefault n ls = .ok rules ↔
      ∃ texts rest, ls = texts ++ rest ∧ texts.length = n ∧
      List.Forall₂ (fun text rule => RuleLine.Written (lowercase text) rule) texts rules ∧
      rules.countP RuleLine.isFallback + hasDefault.toNat ≤ 1 := by
  induction n generalizing line hasDefault ls rules with
  | zero =>
    constructor
    · intro read
      cases ls <;> cases read <;> exact ⟨[], _, rfl, rfl, .nil, by simp [Bool.toNat_le]⟩
    · rintro ⟨texts, rest, rfl, none, written, -⟩
      obtain rfl := List.length_eq_zero_iff.1 none
      cases written
      cases rest <;> rfl
  | succ n ih =>
    constructor
    · intro read
      cases ls with
      | nil => cases read
      | cons text ls =>
        obtain ⟨head, bare⟩ := List.forall_mem_cons.1 bare
        obtain ⟨rule, first, read⟩ := bind_eq_ok.1 read
        split_ifs at read with twice
        · cases read
        · obtain ⟨later, done, same⟩ := bind_eq_ok.1 read
          cases same
          obtain ⟨texts, rest, rfl, rfl, written, single⟩ := (ih bare).1 done
          refine ⟨text :: texts, rest, rfl, rfl, .cons ?_ written, ?_⟩
          · exact (RuleLine.read_eq_ok_iff (head_lowercase head.head)).1 first
          · exact (single_cons hasDefault rule later).2 ⟨Bool.eq_false_of_not_eq_true twice, single⟩
    · rintro ⟨texts, rest, rfl, number, written, single⟩
      cases written with
      | nil => cases number
      | @cons text rule texts rules first written =>
        obtain ⟨once, single⟩ := (single_cons hasDefault rule rules).1 single
        have later : readRules (line + 1) (hasDefault || rule.isFallback) n (texts ++ rest) =
            .ok rules :=
          (ih fun l inside => bare l (List.mem_cons_of_mem _ inside)).2
            ⟨texts, rest, rfl, Nat.succ.inj number, written, single⟩
        refine bind_eq_ok.2 ⟨rule, first.read_eq line, ?_⟩
        rw [if_neg (by simp [once])]
        exact bind_eq_ok.2 ⟨rules, later, rfl⟩

theorem filter_isSimple (rules : List RuleLine) :
    rules.filter RuleLine.isSimple = (simpleRules rules).map .simple := by
  induction rules with
  | nil => rfl
  | cons rule rules ih =>
    cases rule with
    | simple r => exact congrArg (.simple r :: ·) ih
    | neighbor r => exact ih
    | fallback e => exact ih

theorem filter_isNeighbor (rules : List RuleLine) :
    rules.filter RuleLine.isNeighbor = (neighborRules rules).map .neighbor := by
  induction rules with
  | nil => rfl
  | cons rule rules ih =>
    cases rule with
    | simple r => exact ih
    | neighbor r => exact congrArg (.neighbor r :: ·) ih
    | fallback e => exact ih

theorem filter_isSimple_eq_iff {rules : List RuleLine} {rs : List SimpleRule} :
    rules.filter RuleLine.isSimple = rs.map .simple ↔ simpleRules rules = rs := by
  rw [filter_isSimple, List.map_inj_right fun r s => RuleLine.simple.inj]

theorem filter_isNeighbor_eq_iff {rules : List RuleLine} {rs : List NeighborRule} :
    rules.filter RuleLine.isNeighbor = rs.map .neighbor ↔ neighborRules rules = rs := by
  rw [filter_isNeighbor, List.map_inj_right fun r s => RuleLine.neighbor.inj]

theorem filter_isFallback_eq_iff {rules : List RuleLine} {e : Expr} :
    rules.filter RuleLine.isFallback = [.fallback e] ↔
      defaultRule? rules = some e ∧ rules.countP RuleLine.isFallback ≤ 1 := by
  induction rules with
  | nil => simp [defaultRule?]
  | cons rule rules ih =>
    cases rule with
    | simple r => exact ih
    | neighbor r => exact ih
    | fallback f =>
      have others : rules.countP RuleLine.isFallback = 0 ↔
          rules.filter RuleLine.isFallback = [] := by
        rw [List.countP_eq_length_filter, List.length_eq_zero_iff]
      have first : (RuleLine.fallback f :: rules).filter RuleLine.isFallback =
          .fallback f :: rules.filter RuleLine.isFallback := rfl
      have found : defaultRule? (.fallback f :: rules) = some f := rfl
      rw [first, found, List.countP_cons_of_pos rfl, List.cons.injEq, ← others]
      simp

theorem length_rules (rules : List RuleLine) :
    (rules.filter RuleLine.isSimple).length + (rules.filter RuleLine.isNeighbor).length +
      (rules.filter RuleLine.isFallback).length = rules.length := by
  simp only [← List.countP_eq_length_filter]
  induction rules with
  | nil => rfl
  | cons rule rules ih =>
    simp only [List.countP_cons, List.length_cons]
    cases rule <;> simp [RuleLine.isSimple, RuleLine.isNeighbor, RuleLine.isFallback] <;> omega

/-! ## The whole file -/

theorem line_eq_ok_iff {n : ℕ} {ls : List (List Char)} {l : List Char} :
    line n ls = .ok l ↔ ls[n - 1]? = some l := by
  unfold line
  cases ls[n - 1]? <;> simp

theorem ofLines_eq_ok_iff {tolerance : Float} {ls : List (List Char)} (bare : ∀ l ∈ ls, Bare l)
    {r : RuleSet} :
    ofLines tolerance ls = .ok r ↔ Describes tolerance ls r := by
  constructor
  · intro read
    simp only [ofLines, bind_eq_ok, line_eq_ok_iff] at read
    obtain ⟨first, line₁, states, readStates, second, line₂, ps, readProbabilities, ⟨⟩, checked,
      third, line₃, n, readCount, rules, readRules, found⟩ := read
    obtain ⟨ls, rfl⟩ : ∃ rest, ls = first :: second :: third :: rest := by
      rcases ls with _ | ⟨a, _ | ⟨b, _ | ⟨c, rest⟩⟩⟩ <;> cases line₁ <;> cases line₂ <;> cases line₃
      exact ⟨rest, rfl⟩
    split at found
    · next e default =>
      cases found
      have bareRules : ∀ l ∈ ls, Bare l := fun l inside => bare l (by simp [inside])
      obtain ⟨numbers, distinct, -⟩ := readStates_eq_ok_iff.1 readStates
      obtain ⟨numbers', admissible⟩ := readProbabilities_eq_ok_iff.1 readProbabilities
      obtain ⟨matching, total⟩ := checkProbabilities_eq_ok_iff.1 checked
      obtain ⟨count, small⟩ := readCount_eq_ok_iff.1 readCount
      obtain ⟨texts, rest, rfl, rfl, written, single⟩ := (readRules_eq_ok_iff bareRules).1 readRules
      exact .intro ⟨_, splitOn_eq_iff.1 rfl, numbers⟩ distinct ⟨_, splitOn_eq_iff.1 rfl, numbers'⟩
        matching admissible
        total count small written (filter_isSimple rules) (filter_isNeighbor rules)
        (filter_isFallback_eq_iff.2 ⟨default, single⟩)
    · cases found
  · intro describes
    obtain @⟨first, second, third, texts, rest, rules, r, ⟨fields, separated, numbers⟩, distinct,
      ⟨fields', separated', numbers'⟩, matching, admissible, total, count, small, written, simple,
        neighbor, fallback⟩ :=
      describes
    have bareRules : ∀ l ∈ texts ++ rest, Bare l := fun l inside =>
      bare l (List.mem_cons_of_mem _ (List.mem_cons_of_mem _ (List.mem_cons_of_mem _ inside)))
    obtain ⟨default, single⟩ := filter_isFallback_eq_iff.1 fallback
    simp only [ofLines, bind_eq_ok, line_eq_ok_iff]
    refine ⟨first, rfl, r.states, ?_, second, rfl, r.probabilities, ?_, (), ?_, third, rfl,
      texts.length, ?_, rules, ?_, ?_⟩
    · rw [splitOn_eq_iff.2 separated]
      exact readStates_eq_ok_iff.2 ⟨numbers, distinct, by simp⟩
    · rw [splitOn_eq_iff.2 separated']
      exact readProbabilities_eq_ok_iff.2 ⟨numbers', admissible⟩
    · exact checkProbabilities_eq_ok_iff.2 ⟨matching, total⟩
    · exact readCount_eq_ok_iff.2 ⟨count, small⟩
    · exact (readRules_eq_ok_iff bareRules).2 ⟨texts, rest, rfl, rfl, written, single⟩
    · rw [default, filter_isSimple_eq_iff.1 simple, filter_isNeighbor_eq_iff.1 neighbor]
      rfl

theorem Describes.count {tolerance : Float} {first second third : List Char}
    {rest : List (List Char)} {r : RuleSet}
    (describes : Describes tolerance (first :: second :: third :: rest) r) :
    Reads Numeral.readSize? third (r.simpleRules.length + r.neighborRules.length + 1) := by
  cases describes with
  | @intro _ _ _ texts _ rules _ _ _ _ _ _ _ count _ written simple neighbor fallback =>
    have kinds := length_rules rules
    rw [simple, neighbor, fallback, List.length_map, List.length_map,
      List.length_singleton] at kinds
    rwa [kinds, ← written.length_eq]

end RuleFile

namespace RuleSet

open RuleFile

theorem parse_eq_ok_iff {tolerance : Float} {text : String} {r : RuleSet} :
    parse tolerance text = .ok r ↔ Describes tolerance (lines text.toList) r :=
  ofLines_eq_ok_iff bare_of_mem_lines

/-- A text is read as a rule set if and only if it describes it. The number on its third line is
then the number of the simple rules and the neighbor rules and the default rule. -/
theorem parse_iff_describes (tolerance : Float) (text : String) :
    (∀ r, parse tolerance text = .ok r ↔ ∃ ls, Lines text.toList ls ∧ Describes tolerance ls r) ∧
    ∀ r ls third n, parse tolerance text = .ok r → Lines text.toList ls → ls[2]? = some third →
      Reads Numeral.readSize? third n → r.simpleRules.length + r.neighborRules.length + 1 = n := by
  constructor
  · intro r
    simp only [← lines_eq_iff, exists_eq_left']
    exact parse_eq_ok_iff
  · intro r ls third n parsed separated found number
    have describes := parse_eq_ok_iff.1 parsed
    rw [lines_eq_iff.2 separated] at describes
    obtain ⟨first, second, third', rest, rfl⟩ : ∃ a b c rest, ls = a :: b :: c :: rest := by
      cases describes
      exact ⟨_, _, _, _, rfl⟩
    cases found
    have counted := reads_iff.1 describes.count
    rw [reads_iff.1 number] at counted
    exact (Option.some.inj counted).symm

/-- Keywords are in any case, and comments, blanks and the lines after the last rule do not
count. -/
theorem parse_iff_describes_fire :
    let text := "0, 1,2 // ash, fire, tree\r\n .5 ,25e-2, 0.25\n+4\n" ++
      "MIN 1 : 1:2->1 // spreads\n1 -> 0\nMax\t0:1 -> +2\n default->x\nno rule"
    ∃ ls r, Lines text.toList ls ∧ Describes 0.1 ls r ∧
      r.simpleRules.length + r.neighborRules.length + 1 = 4 := by
  intro text
  have parsed : parse 0.1 text = .ok ⟨[0, 1, 2], [0.5, 0.25, 0.25], [⟨1, 0⟩],
      [⟨.atLeast, 1, 1, some 2, 1⟩, ⟨.atMost, 0, 1, none, 2⟩], .var⟩ := by decide +kernel
  obtain ⟨ls, separated, describes⟩ := ((parse_iff_describes 0.1 text).1 _).1 parsed
  have found : ls[2]? = some ['+', '4'] := by
    rw [← lines_eq_iff.2 separated]
    decide +kernel
  exact ⟨ls, _, separated, describes,
    (parse_iff_describes 0.1 text).2 _ ls _ 4 parsed separated found
    (reads_iff.2 (by decide))⟩

end RuleSet

end CellularAutomaton
