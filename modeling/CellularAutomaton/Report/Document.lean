import CellularAutomaton.Document.Json.Printer
import CellularAutomaton.World.Run

/-!
# Results as documents
-/
namespace CellularAutomaton

open Document

def Delta.toValue (d : Delta) : Value :=
  .table [("entered", .integer d.entered), ("left", .integer d.left)]

def History.toValue (h : History) : Value :=
  .table [
    ("states", .list (h.states.map fun s => .integer s.toInt)),
    ("rounds", .list (h.rounds.toList.map fun r =>
      .table [("deltas", .list (r.map Delta.toValue))]))]

def RunResult.toValue (r : RunResult) : Value :=
  .table [
    ("iterations", .integer r.iterations),
    ("final_occurrences",
      .table (r.finalCounts.map fun p => (String.ofList p.1.print, .integer p.2))),
    ("dimensions", .list [.integer r.width, .integer r.height]),
    ("possible_states", .list (r.possibleStates.map fun s => .integer s.toInt)),
    ("history", r.history.toValue),
    ("ended_naturally", .bool r.endedNaturally)]

/-- The results of any number of runs as a JSON text. -/
def Report.json (results : List RunResult) : String :=
  Json.print (.list (results.map RunResult.toValue))

end CellularAutomaton
