import CellularAutomaton.Expr.Basic
import CellularAutomaton.Rule.Window

/-!
# Rules

The next state of a cell is said by the first simple rule for its state. Without one it is said by
the first neighbor rule whose condition holds, and without such a rule by the default expression.
-/
namespace CellularAutomaton

inductive Comparison
  | atLeast
  | atMost
  | exactly
  deriving DecidableEq

def Comparison.holds : Comparison → Nat → Nat → Bool
  | atLeast, count, threshold => threshold ≤ count
  | atMost, count, threshold => count ≤ threshold
  | exactly, count, threshold => count = threshold

structure SimpleRule where
  source : State
  target : State
  deriving DecidableEq

/-- Cells go to `target` when the number of neighbors in the state `neighbor` compares with the
threshold as said. Without a `source` the rule is for cells in any state. -/
structure NeighborRule where
  comparison : Comparison
  threshold : UInt32
  neighbor : State
  source : Option State
  target : State
  deriving DecidableEq

def NeighborRule.applies (r : NeighborRule) (current : State) (w : Window) : Bool :=
  (r.source = none || r.source = some current) &&
    r.comparison.holds (w.count r.neighbor) r.threshold.toNat

/-- The sum of probabilities, added from left to right. -/
def totalProbability (ps : List Float) : Float := ps.foldl (· + ·) (-0.0)

/-- A complete description of an automaton: its possible states with the probabilities to begin in
them, and its rules. -/
structure RuleSet where
  states : List State
  probabilities : List Float
  simpleRules : List SimpleRule
  neighborRules : List NeighborRule
  defaultRule : Expr
  deriving DecidableEq

namespace RuleSet

def isPossible (r : RuleSet) (s : State) : Bool := r.states.contains s

def nextState (r : RuleSet) (current : State) (w : Window) : Except EvalError State :=
  match r.simpleRules.find? fun rule => rule.source = current with
  | some rule => .ok rule.target
  | none =>
    match r.neighborRules.find? fun rule => rule.applies current w with
    | some rule => .ok rule.target
    | none => r.defaultRule.evalState current

end RuleSet

end CellularAutomaton
