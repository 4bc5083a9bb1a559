import CellularAutomaton.Expr.Printer
import CellularAutomaton.RuleFile.RuleLine

/-!
# Writing rule files

Simple rules come first, then neighbor rules, each in their order, and the default rule last.
-/
namespace CellularAutomaton

def arrow : List Char := [' ', '-', '>', ' ']

def SimpleRule.print (r : SimpleRule) : List Char := r.source.print ++ arrow ++ r.target.print

def NeighborRule.print (r : NeighborRule) : List Char :=
  r.comparison.keyword ++ ' ' :: Numeral.natural r.threshold.toNat ++
    ':' :: ' ' :: r.neighbor.print ++
    (match r.source with
      | some s => ':' :: ' ' :: s.print
      | none => []) ++
    arrow ++ r.target.print

namespace RuleSet

def printedLines (r : RuleSet) : List (List Char) :=
  [[','].intercalate (r.states.map State.print),
    [','].intercalate (r.probabilities.map Numeral.float),
    Numeral.natural (r.simpleRules.length + r.neighborRules.length + 1)] ++
  r.simpleRules.map SimpleRule.print ++
  r.neighborRules.map NeighborRule.print ++
  [RuleLine.defaultKeyword ++ arrow ++ r.defaultRule.print]

/-- The rules as the text of a rule file; every line ends with a newline. -/
def print (r : RuleSet) : String := String.ofList (r.printedLines.flatMap (· ++ ['\n']))

end RuleSet

end CellularAutomaton
