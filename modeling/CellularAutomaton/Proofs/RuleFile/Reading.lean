import CellularAutomaton.Proofs.RuleFile.Format

/-!
# What is read from a rule file

A rule set that has been read has distinct states, one probability for each of them, not too many
rules, and a canonical default expression.
-/

namespace CellularAutomaton

open RuleFile

/-- What holds of every rule set that has been read. -/
structure RuleSet.IsRead (tolerance : Float) (r : RuleSet) : Prop where
  states : r.states ≠ []
  distinct : r.states.Nodup
  probabilities : ∀ p ∈ r.probabilities, p.isFinite ∧ 0 ≤ p
  checked : RuleFile.checkProbabilities tolerance r.states r.probabilities = .ok ()
  count : r.simpleRules.length + r.neighborRules.length + 1 + 3 < UInt64.size
  canonical : r.defaultRule.Canonical

theorem RuleSet.IsRead.length_probabilities {tolerance : Float} {r : RuleSet}
    (isRead : r.IsRead tolerance) :
    r.probabilities.length = r.states.length :=
  (checkProbabilities_eq_ok_iff.1 isRead.checked).1

theorem RuleFile.Enumerates.ne_nil {α : Type} {read? : List Char → Option α} {line : List Char}
    {as : List α} (enumerates : Enumerates read? line as) : as ≠ [] := by
  obtain ⟨fields, separated, each⟩ := enumerates
  rintro rfl
  cases each
  exact separated.some rfl

theorem RuleLine.Written.canonical {text : List Char} {e : Expr}
    (written : Written text (.fallback e)) :
    e.Canonical := by
  cases written with
  | fallback blank lexes derives => exact derives.canonical (Expr.opposable_of_lexes lexes)

theorem RuleLine.Written.canonical_of_mem {texts : List (List Char)} {rules : List RuleLine}
    (written : List.Forall₂ (fun text rule => Written (Text.lowercase text) rule) texts rules)
    {e : Expr} (inside : .fallback e ∈ rules) : e.Canonical := by
  induction written with
  | nil => cases inside
  | cons first _ ih =>
    rcases List.mem_cons.1 inside with rfl | inside
    · exact first.canonical
    · exact ih inside

theorem RuleFile.Describes.isRead {tolerance : Float} {ls : List (List Char)} {r : RuleSet}
    (describes : Describes tolerance ls r) : r.IsRead tolerance := by
  obtain @⟨first, second, third, texts, rest, rules, r, states, distinct, probabilities, matching,
    admissible, total, count, small, written, simple, neighbor, fallback⟩ := describes
  refine ⟨states.ne_nil, distinct, admissible,
    checkProbabilities_eq_ok_iff.2 ⟨matching, total⟩, ?_, ?_⟩
  · have kinds := length_rules rules
    rw [simple, neighbor, fallback, List.length_map, List.length_map, List.length_singleton,
      ← written.length_eq] at kinds
    omega
  · have inside : .fallback r.defaultRule ∈ rules := by
      refine List.mem_of_mem_filter (p := RuleLine.isFallback) ?_
      rw [fallback]
      exact List.mem_singleton_self _
    exact RuleLine.Written.canonical_of_mem written inside

theorem RuleSet.isRead_of_parse {tolerance : Float} {text : String} {r : RuleSet}
    (parsed : RuleSet.parse tolerance text = .ok r) : r.IsRead tolerance :=
  (RuleSet.parse_eq_ok_iff.1 parsed).isRead

end CellularAutomaton
