import CellularAutomaton.Proofs.Numeral.ReadFloat
import CellularAutomaton.Proofs.RuleFile.Reading
import CellularAutomaton.Proofs.RuleFile.RuleLine

/-!
# Rule files read back

Every line of a printed rule set is read as it is written, without a comment in it and with nothing
to trim or to lower-case. So what is printed describes the rule set again.
-/

namespace CellularAutomaton

open Text RuleFile

namespace RuleFile

/-! ## Lines -/

section

variable {α : Type} {write : α → List Char} {as : List α}

theorem isLine_intercalate (solid : ∀ a ∈ as, ∀ c ∈ write a, IsSolid c) :
    IsLine ([','].intercalate (as.map write)) := by
  apply IsLine.of_solid
  intro c inside
  rcases mem_intercalate inside with rfl | ⟨l, among, here⟩
  · decide
  · obtain ⟨a, member, rfl⟩ := List.mem_map.1 among
    exact solid a member c here

theorem enumerates_intercalate {read? : List Char → Option α} (nonempty : as ≠ [])
    (solid : ∀ a ∈ as, ∀ c ∈ write a, IsSolid c) (apart : ∀ a ∈ as, ',' ∉ write a)
    (back : ∀ a ∈ as, read? (write a) = some a) :
    Enumerates read? ([','].intercalate (as.map write)) as := by
  refine ⟨as.map write, ⟨by simpa using nonempty, ?_, rfl⟩, ?_⟩
  · simpa using apart
  · rw [List.forall₂_map_left_iff, List.forall₂_same]
    intro a inside
    exact .of_bare (IsLine.of_solid (solid a inside)).bare (back a inside)

end

theorem content_of_isLine {cs : List Char} (line : IsLine cs) : content cs = cs := by
  rw [content, line.slashes.cutAtPair, Option.map_none, Option.getD_none, trim_of_bare line.bare]

end RuleFile

theorem Numeral.isSolid_of_mem_float {p : Float} (finite : p.isFinite) :
    ∀ c ∈ Numeral.float p, IsSolid c := by
  intro c inside
  rcases Numeral.mem_float finite inside with rfl | rfl | digit
  · decide
  · decide
  · exact isSolid_of_isDigit digit

/-! ## Rules -/

namespace RuleSet

/-- The rules of a rule set in the order in which they are printed. -/
def ruleLines (r : RuleSet) : List RuleLine :=
  r.simpleRules.map .simple ++ r.neighborRules.map .neighbor ++ [.fallback r.defaultRule]

variable (r : RuleSet)

theorem length_ruleLines : r.ruleLines.length =
    r.simpleRules.length + r.neighborRules.length + 1 := by
  simp [ruleLines, Nat.add_assoc]

theorem printedLines_eq : r.printedLines =
    [','].intercalate (r.states.map State.print) ::
      [','].intercalate (r.probabilities.map Numeral.float) ::
      Numeral.natural r.ruleLines.length :: r.ruleLines.map RuleLine.print := by
  have simple : r.simpleRules.map SimpleRule.print = r.simpleRules.map (RuleLine.print ∘ .simple) :=
    rfl
  have neighbor : r.neighborRules.map NeighborRule.print =
    r.neighborRules.map (RuleLine.print ∘ .neighbor) := rfl
  rw [printedLines, length_ruleLines, simple, neighbor]
  simp [ruleLines, RuleLine.print]

theorem filter_ruleLines :
    r.ruleLines.filter RuleLine.isSimple = r.simpleRules.map .simple ∧
      r.ruleLines.filter RuleLine.isNeighbor = r.neighborRules.map .neighbor ∧
      r.ruleLines.filter RuleLine.isFallback = [.fallback r.defaultRule] := by
  simp [ruleLines, List.filter_map, Function.comp_def, RuleLine.isSimple, RuleLine.isNeighbor,
    RuleLine.isFallback]

theorem written_ruleLines (canonical : r.defaultRule.Canonical) :
    List.Forall₂ (fun text rule => RuleLine.Written (lowercase text) rule)
      (r.ruleLines.map RuleLine.print)
      r.ruleLines := by
  rw [List.forall₂_map_left_iff, List.forall₂_same]
  intro rule inside
  rw [lowercase_of_isPlain rule.isLine_print.plain]
  apply RuleLine.written_print
  rintro e rfl
  obtain rfl : e = r.defaultRule := by simpa [ruleLines] using inside
  exact canonical

end RuleSet

/-! ## The whole file -/

theorem RuleFile.lines_print {r : RuleSet} (finite : ∀ p ∈ r.probabilities, p.isFinite) :
    lines r.print.toList = r.printedLines ++ [[]] := by
  have all : ∀ l ∈ r.printedLines, IsLine l := by
    rw [r.printedLines_eq]
    simp only [List.forall_mem_cons, List.forall_mem_map]
    exact ⟨isLine_intercalate fun s _ => Numeral.isSolid_of_mem_integer,
      isLine_intercalate fun p inside => Numeral.isSolid_of_mem_float (finite p inside),
      .of_solid Numeral.isSolid_of_mem_natural, fun rule _ => rule.isLine_print⟩
  rw [lines, RuleSet.print, String.toList_ofList,
    splitOn_lines fun l inside => (all l inside).single, List.map_append]
  congr 1
  calc
    _ = r.printedLines.map id :=
      List.map_congr_left fun l inside => content_of_isLine (all l inside)
    _ = _ := List.map_id _

/-- A rule set is read back from its text with every tolerance that its probabilities keep to. -/
theorem RuleSet.IsRead.parse_print {tolerance : Float} {r : RuleSet} (isRead : r.IsRead tolerance) :
    RuleSet.parse tolerance r.print = .ok r := by
  have finite : ∀ p ∈ r.probabilities, p.isFinite :=
    fun p inside => (isRead.probabilities p inside).1
  have some : r.probabilities ≠ [] := by
    rw [← List.length_pos_iff, isRead.length_probabilities]
    exact List.length_pos_iff.2 isRead.states
  have noComma : ∀ p ∈ r.probabilities, ',' ∉ Numeral.float p := by
    intro p inside comma
    rcases Numeral.mem_float (finite p inside) comma with same | same | digit
    · cases same
    · cases same
    · cases digit
  have noComma' : ∀ s ∈ r.states, ',' ∉ s.print := by
    intro s _ comma
    rcases Numeral.mem_integer comma with same | digit
    · cases same
    · cases digit
  obtain ⟨matching, total⟩ := checkProbabilities_eq_ok_iff.1 isRead.checked
  obtain ⟨simple, neighbor, fallback⟩ := r.filter_ruleLines
  have small : r.ruleLines.length + 3 < UInt64.size := by
    rw [r.length_ruleLines]
    exact isRead.count
  rw [RuleSet.parse_eq_ok_iff, RuleFile.lines_print finite, r.printedLines_eq]
  refine .intro
    (enumerates_intercalate isRead.states (fun s _ => Numeral.isSolid_of_mem_integer) noComma'
      fun s _ => Numeral.readInt32?_integer s) isRead.distinct
    (enumerates_intercalate some
      (fun p inside => Numeral.isSolid_of_mem_float (finite p inside)) noComma
      fun p inside => Numeral.readFloat?_float (finite p inside)) matching
        isRead.probabilities total ?_ ?_
    (r.written_ruleLines isRead.canonical) simple neighbor fallback
  · rw [List.length_map]
    exact .of_bare (IsLine.of_solid Numeral.isSolid_of_mem_natural).bare
      (Numeral.readSize?_natural (by omega))
  · rwa [List.length_map]

/-! ## Infinite tolerance -/

theorem Numeral.not_infinity_lt (x : Float) : ¬x > Numeral.infinity := by
  intro above
  have unpacked : Numeral.infinity.toModel.unpack = .infinity .positive := rfl
  have lt : Numeral.infinity.toModel.unpack.lt x.toModel.unpack = true := of_decide_eq_true above
  rw [unpacked] at lt
  cases same : x.toModel.unpack with
  | infinity s =>
    rw [same] at lt
    cases s <;> cases lt
  | _ =>
    rw [same] at lt
    cases lt

theorem RuleSet.IsRead.tolerant {tolerance : Float} {r : RuleSet} (isRead : r.IsRead tolerance) :
    r.IsRead Numeral.infinity where
  states := isRead.states
  distinct := isRead.distinct
  probabilities := isRead.probabilities
  checked := checkProbabilities_eq_ok_iff.2 ⟨isRead.length_probabilities, Numeral.not_infinity_lt _⟩
  count := isRead.count
  canonical := isRead.canonical

/-! ## The round trip -/

/-- A rule set that has been read is read back from its printed form, with the tolerance that it was
read with and with any sum of probabilities allowed. Printing what is read back changes nothing. -/
theorem RuleSet.reads_what_it_prints {tolerance : Float} {text : String} {r : RuleSet}
    (parsed : RuleSet.parse tolerance text = .ok r) :
    RuleSet.parse tolerance r.print = .ok r ∧ RuleSet.parse Numeral.infinity r.print = .ok r ∧
      ∀ again, RuleSet.parse tolerance r.print = .ok again ∨
        RuleSet.parse Numeral.infinity r.print = .ok again →
        again.print = r.print := by
  have isRead := RuleSet.isRead_of_parse parsed
  have strict := isRead.parse_print
  have tolerant := isRead.tolerant.parse_print
  refine ⟨strict, tolerant, ?_⟩
  rintro again (back | back)
  · rw [strict] at back
    cases back
    rfl
  · rw [tolerant] at back
    cases back
    rfl

theorem RuleSet.reads_what_it_prints_fire :
    let text := "0, 1, 2 // ash, fire, tree\n0.05,.2,0.75\n3\n" ++
      "MIN 1: 1: 2 -> 1\n1 -> 0\nDEFAULT -> -(0 - X)\n"
    ∃ r, RuleSet.parse 0.1 text = .ok r ∧
      r.print = "0,1,2\n0.05,0.2,0.75\n3\n1 -> 0\nmin 1: 1: 2 -> 1\ndefault -> -(0 - x)\n" ∧
      RuleSet.parse 0.1 r.print = .ok r ∧ RuleSet.parse Numeral.infinity r.print = .ok r := by
  intro text
  have parsed : RuleSet.parse 0.1 text =
      .ok ⟨[0, 1, 2], [0.05, 0.2, 0.75], [⟨1, 0⟩], [⟨.atLeast, 1, 1, some 2, 1⟩],
        .neg (.binary .sub (.literal 0) .var)⟩ := by decide +kernel
  obtain ⟨strict, tolerant, -⟩ := RuleSet.reads_what_it_prints parsed
  exact ⟨_, parsed, by decide +kernel, strict, tolerant⟩

end CellularAutomaton
