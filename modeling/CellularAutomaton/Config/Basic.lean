import CellularAutomaton.RuleFile.Parser
import CellularAutomaton.World.Run
import CellularAutomaton.World.Setup

/-!
# Configured runs

A configuration says how large a world is, how it is set up, and how long it runs. Runs are numbered
from zero, and each of them has a seed of its own.
-/
namespace CellularAutomaton

/-- An edge that is forced into a state before the first step. -/
structure EdgeSeed where
  edge : Edge
  state : State
  deriving DecidableEq

structure Config where
  width : Nat
  height : Nat
  runs : Nat
  /-- The iteration at which a run is cut off; without it only convergence ends a run. -/
  maxIterations : Option Nat
  /-- The seed of the first run; later runs count up from it. -/
  seed : Option UInt64
  edge : Option EdgeSeed
  /-- How far the probabilities of the rules may sum from one. -/
  tolerance : Float
  strict : Bool
  deriving DecidableEq

namespace Config

/-- What holds where nothing else is said. -/
def standard : Config where
  width := 16
  height := 16
  runs := 1
  maxIterations := none
  seed := none
  edge := none
  tolerance := RuleSet.defaultTolerance
  strict := false

def ofSize (width height : Nat) : Config := { standard with width, height }

def parseRules (c : Config) (text : String) : Except Error RuleSet :=
  (RuleSet.parse c.tolerance text).mapError .rules

/-- The seed of a run. Without a configured seed it is taken from `entropy`; the numbers wrap
around. -/
def seedOf (c : Config) (entropy : Nat → UInt64) (run : Nat) : UInt64 :=
  match c.seed with
  | some s => s + UInt64.ofNat run
  | none => entropy run

def world (c : Config) (rules : RuleSet) : Except Obstacle (World c.width c.height) :=
  (World.new c.width c.height rules).map fun world => world.setStrict c.strict

/-- The world of a run before its first step. -/
def worldOfRun (c : Config) (entropy : Nat → UInt64) (rules : RuleSet) (run : Nat) :
    Except Obstacle (World c.width c.height) := do
  let blank ← c.world rules
  let (drawn, world) := blank.randomize (Random.wordsOfSeed (c.seedOf entropy run))
  drawn.mapError .failure
  match c.edge with
  | some seed =>
    let (seeded, world) := world.seedEdge seed.edge seed.state
    seeded.mapError .failure
    return world
  | none => return world

def run (c : Config) (entropy : Nat → UInt64) (rules : RuleSet) (run : Nat) :
    Except Obstacle RunResult := do
  let world ← c.worldOfRun entropy rules run
  (world.run c.maxIterations).1

/-- The results of so many runs from the given one on, up to the first that comes to none. -/
def runsFrom (c : Config) (entropy : Nat → UInt64) (rules : RuleSet) :
    Nat → Nat → Except Obstacle (List RunResult)
  | _, 0 => .ok []
  | first, n + 1 => do
    let r ← c.run entropy rules first
    return r :: (← c.runsFrom entropy rules (first + 1) n)

def runAll (c : Config) (entropy : Nat → UInt64) (rules : RuleSet) :
    Except Obstacle (List RunResult) :=
  c.runsFrom entropy rules 0 c.runs

end Config

end CellularAutomaton
