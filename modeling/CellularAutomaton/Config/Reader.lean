import CellularAutomaton.Config.Basic
import CellularAutomaton.Document.Reading

/-!
# Configurations in documents

Entries that are missing have their standard values, unknown entries are ignored, and no known entry
may come twice.
-/
namespace CellularAutomaton

namespace Document.Reading

variable (r : Reading α)

def size? (v : α) : Option Nat :=
  (r.natural? v).bind fun n => if n < UInt64.size then some n else none

def state? (v : α) : Option State := (r.integer? v).bind Numeral.int32?

def maybe? (read? : α → Option β) (v : α) : Option (Option β) := do
  match ← r.optional? v with
  | some v => (read? v).map some
  | none => return none

def edge? (v : α) : Option Edge := do
  let name ← r.choice? v
  [Edge.north, .east, .south, .west].find? fun e => e.name = name

def edgeSeed? (v : α) : Option EdgeSeed := do
  match ← r.entries? ["edge", "state"] v with
  | [some edge, some state] => return ⟨← r.edge? edge, ← r.state? state⟩
  | _ => none

end Document.Reading

namespace Config

def entry? (read? : α → Option β) (standard : β) : Option α → Option β
  | some v => read? v
  | none => some standard

/-- The configuration that a value stands for. -/
def read? (r : Document.Reading α) (v : α) : Option Config := do
  match ← r.entries? ["width", "height", "runs", "max_iterations", "seed", "edge",
      "probability_tolerance", "strict_states"] v with
  | [width, height, runs, maxIterations, seed, edge, tolerance, strict] =>
    return {
      width := ← entry? r.size? standard.width width
      height := ← entry? r.size? standard.height height
      runs := ← entry? r.size? standard.runs runs
      maxIterations := ← entry? (r.maybe? r.size?) standard.maxIterations maxIterations
      seed := ← entry? (r.maybe? fun v => (r.size? v).map UInt64.ofNat) standard.seed seed
      edge := ← entry? (r.maybe? r.edgeSeed?) standard.edge edge
      tolerance := ← entry? r.real? standard.tolerance tolerance
      strict := ← entry? r.bool? standard.strict strict }
  | _ => none

end Config

end CellularAutomaton
