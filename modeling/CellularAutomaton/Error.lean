import CellularAutomaton.Coord
import CellularAutomaton.Rule.Basic
import CellularAutomaton.RuleFile.Error

/-!
# Errors of worlds and runs
-/
namespace CellularAutomaton

inductive Error
  | rules (cause : RuleFileError)
  | evaluation (cause : EvalError)
  | emptyWorld
  | degenerateDistribution
  | sampleOutOfRange (draw : Float)
  | notRandomized
  | seedNotAllowed
  | outOfBounds (c : Coord)
  | invalidState (c : Coord) (s : State)
  deriving DecidableEq

def Error.message : Error → String
  | rules cause => "Invalid rules: " ++ cause.message
  | evaluation cause => "Evaluation failed: " ++ cause.message
  | emptyWorld => "Width and height should be positive."
  | degenerateDistribution => "The state probabilities don't describe a distribution."
  | sampleOutOfRange draw =>
    "Draw " ++ String.ofList (Numeral.float draw) ++ " is outside the cumulative table."
  | notRandomized => "The world has not been randomized yet."
  | seedNotAllowed =>
    "An edge can only be seeded once, after randomizing and before the first step."
  | outOfBounds c => "Cell at " ++ String.ofList c.print ++ " does not exist."
  | invalidState c s =>
    "Cell at " ++ String.ofList c.print ++ " has invalid state: " ++ String.ofList s.print ++ "."

/-- Why there is no result. -/
inductive Obstacle
  | failure (e : Error)
  /-- A number or a buffer is too large for the machine, and the program is aborted. -/
  | overflow
  /-- A loop never ends. -/
  | endless
  deriving DecidableEq

end CellularAutomaton
