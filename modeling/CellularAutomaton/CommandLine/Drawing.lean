import CellularAutomaton.Config.Basic

/-!
# Drawn runs

A drawn run shows the initial world and then the world after each step.
-/
namespace CellularAutomaton

variable {w h : Nat}

def decimal (n : Nat) : String := String.ofList (Numeral.natural n)

namespace World

def block (world : World w h) (headline : String) : String :=
  headline ++ ":\n" ++ world.display ++ "\n\n"

def initialBlock (world : World w h) (run : Nat) : String :=
  world.block ("Run " ++ decimal (run + 1) ++ ", initial world")

def roundBlock (world : World w h) (changed : Nat) : String :=
  world.block ("Round " ++ decimal world.iteration ++ ", " ++ decimal changed ++ " cells changed")

/-- Makes steps like an ordinary run, and shows the world after each. -/
def drawnSteps (max : Option Nat) : Nat → World w h → List String × Except Error (World w h)
  | 0, world => ([], .ok world)
  | n + 1, world =>
    if world.goesOn max then
      match world.step with
      | (.error e, _) => ([], .error e)
      | (.ok changed, next) =>
        let (blocks, outcome) := drawnSteps max n next
        (next.roundBlock changed :: blocks, outcome)
    else ([], .ok world)

end World

namespace Config

def drawnResult (c : Config) : Except Error (World w h) → Except Obstacle RunResult
  | .error e => .error (.failure e)
  | .ok last => last.conclude c.maxIterations last.intoResult

/-- A run with all it shows, also before it fails. -/
def drawnRun (c : Config) (entropy : Nat → UInt64) (rules : RuleSet) (run : Nat) :
    List String × Except Obstacle RunResult :=
  match c.worldOfRun entropy rules run with
  | .error e => ([], .error e)
  | .ok world =>
    let (blocks, outcome) := world.drawnSteps c.maxIterations (world.remaining c.maxIterations)
    (world.initialBlock run :: blocks, c.drawnResult outcome)

/-- So many runs from the given one on, up to the first that comes to no result. -/
def drawnRunsFrom (c : Config) (entropy : Nat → UInt64) (rules : RuleSet) :
    Nat → Nat → List String × Except Obstacle (List RunResult)
  | _, 0 => ([], .ok [])
  | first, n + 1 =>
    let (blocks, outcome) := c.drawnRun entropy rules first
    match outcome with
    | .error e => (blocks, .error e)
    | .ok r =>
      let (more, rest) := c.drawnRunsFrom entropy rules (first + 1) n
      (blocks ++ more, rest.map (r :: ·))

end Config

end CellularAutomaton
