import CellularAutomaton.Grid
import CellularAutomaton.History
import CellularAutomaton.Sampler

/-!
# Worlds

A world is a grid of cells under a set of rules. Its cells have no states until it is randomized;
from then on its generations are counted, with a history of the changes. An operation on a world
gives an answer, which may be an error, and the world it leaves behind, also when it fails.
-/
namespace CellularAutomaton

inductive Status
  /-- No cell has a state. -/
  | uninitialized
  /-- Every cell has an initial state, and no step has been made. -/
  | randomized
  /-- The last step changed some cell. -/
  | running
  /-- The last step changed no cell, and neither would another one. -/
  | converged
  deriving DecidableEq

structure World (w h : Nat) where
  rules : RuleSet
  sampler : Sampler
  /-- The current generation. -/
  cells : Grid State w h
  /-- Where a step builds the next generation; between steps it holds what the last step left in
  it. -/
  scratch : Grid State w h
  history : History
  /-- The number of steps. -/
  iteration : Nat
  status : Status
  /-- Whether an edge has been seeded. -/
  seeded : Bool
  /-- Whether a step fails when a rule leads to a state that is not one of the possible states. -/
  strict : Bool
  deriving DecidableEq

/-- Counts one state `n` more times, in a list that ascends by state. -/
def State.tally (s : State) (n : Nat) : List (State × Nat) → List (State × Nat)
  | [] => [(s, n)]
  | (t, k) :: rest =>
    if s < t then (s, n) :: (t, k) :: rest
    else if s = t then (t, k + n) :: rest
    else (t, k) :: State.tally s n rest

namespace World

variable {w h : Nat}

/-- Whether there can be a buffer for the cells. A state takes four bytes, and a buffer has fewer
than `2 ^ 63` of them. -/
def fits (w h : Nat) : Bool := 4 * (w * h) < Nat.pow 2 63

def new (w h : Nat) (rules : RuleSet) : Except Obstacle (World w h) :=
  if w = 0 ∨ h = 0 then .error (.failure .emptyWorld)
  else match Sampler.ofProbabilities rules.probabilities with
    | .error e => .error (.failure e)
    | .ok sampler =>
      if fits w h then
        .ok
          { rules, sampler
            cells := .replicate 0
            scratch := .replicate 0
            history := .start rules.states
            iteration := 0
            status := .uninitialized
            seeded := false
            strict := false }
      else .error .overflow

def setStrict (world : World w h) (strict : Bool) : World w h := { world with strict }

/-- The column and the row of a coordinate inside the world. -/
def locate (w h : Nat) (c : Coord) : Except Error (Fin w × Fin h) :=
  match Grid.locate? c with
  | some p => .ok p
  | none => .error (.outOfBounds c)

/-- The state of a cell; none if the world has not been randomized. -/
def cell (world : World w h) (c : Coord) : Except Error (Option State) := do
  let p ← locate w h c
  return if world.status = .uninitialized then none else some (world.cells.get p.1 p.2)

/-- The number of cells in each state, for the possible states and all others that occur,
ascending. -/
def counts (world : World w h) : List (State × Nat) :=
  let possible := world.rules.states.foldl (fun counted s => State.tally s 0 counted) []
  if world.status = .uninitialized then possible
  else world.cells.toList.foldl (fun counted s => State.tally s 1 counted) possible

def displayRows (rows : List (List (List Char))) : List Char :=
  ['\n'].intercalate (rows.map [' '].intercalate)

/-- One row a line, with the states separated by blanks; a cell without a state is a dash. -/
def display (world : World w h) : String :=
  let text := fun s => if world.status = .uninitialized then ['-'] else State.print s
  String.ofList (displayRows (world.cells.toLists.map (·.map text)))

end World

end CellularAutomaton
