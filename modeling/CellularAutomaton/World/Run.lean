import CellularAutomaton.World.Step

/-!
# Runs

A run makes steps until the world converges or has reached a given iteration. There are no more
than `2 ^ (32 * w * h)` generations, so that a world that has not converged after that many steps
repeats itself and never will: then a run without a limit never ends.
-/
namespace CellularAutomaton

structure RunResult where
  iterations : Nat
  /-- The number of cells in each state at the end, ascending by state. -/
  finalCounts : List (State × Nat)
  width : Nat
  height : Nat
  /-- The possible states in the order of the rule file. -/
  possibleStates : List State
  history : History
  /-- Whether the world converged, rather than the run being cut off. -/
  endedNaturally : Bool
  deriving DecidableEq

namespace RunResult

variable {w h : Nat}

/-- The summary of the run that led to a world, with its history. -/
def ofWorld (world : World w h) (history : History) : RunResult where
  iterations := world.iteration
  finalCounts := world.counts
  width := w
  height := h
  possibleStates := world.rules.states
  history := history
  endedNaturally := world.status = .converged

def occurrences (r : RunResult) (s : State) : Nat := (r.finalCounts.lookup s).getD 0

end RunResult

namespace World

variable {w h : Nat}

def snapshot (world : World w h) : RunResult := .ofWorld world world.history

/-- The summary at the end of a world. Its history is handed over rather than copied. -/
def intoResult (world : World w h) : RunResult :=
  .ofWorld { world with history := ⟨[], #[]⟩ } world.history

/-- Whether a run to the iteration `max` makes another step. -/
def goesOn (world : World w h) (max : Option Nat) : Bool :=
  world.status ≠ .converged && max.all (world.iteration < ·)

/-- Makes steps as long as the run goes on, but not more than so many. A step that fails ends it. -/
def steps (max : Option Nat) : Nat → World w h → Except Error Unit × World w h
  | 0, world => (.ok (), world)
  | n + 1, world =>
    if world.goesOn max then
      match world.step with
      | (.error e, last) => (.error e, last)
      | (.ok _, next) => steps max n next
    else (.ok (), world)

def generations (w h : Nat) : Nat := Nat.pow 2 (32 * w * h)

/-- A number of steps after which a run to the iteration `max` is over. -/
def remaining (world : World w h) : Option Nat → Nat
  | some max => max - world.iteration
  | none => generations w h + 1

/-- The answer of a run that has made all these steps. -/
def conclude (last : World w h) (max : Option Nat) (result : RunResult) :
    Except Obstacle RunResult :=
  if last.goesOn max then .error .endless else .ok result

/-- Runs to the iteration `max`, or without a limit. -/
def run (world : World w h) (max : Option Nat) : Except Obstacle RunResult × World w h :=
  match world.steps max (world.remaining max) with
  | (.error e, last) => (.error (.failure e), last)
  | (.ok (), last) => (last.conclude max last.snapshot, last)

end World

end CellularAutomaton
