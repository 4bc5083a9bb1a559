import CellularAutomaton.Numeral.Places
import CellularAutomaton.Numeral.Shortest
import CellularAutomaton.World.Run

/-!
# Reports

A single run is reported with the numbers of cells at its end. Several runs are summed up: for each
state that occurs in some run the sum, the average and the median of its numbers of cells.
-/
namespace CellularAutomaton.Report

open Numeral

/-- The number of the cells in one state over many runs. -/
structure StateStats where
  sum : Nat
  average : Float
  median : Float
  deriving DecidableEq

def ratio (a b : Nat) : Float := Numeral.nearest a 1 / Numeral.nearest b 1

/-- The sum of numbers, which has to be below `2 ^ 64`. -/
def total (counts : List Nat) : Except Obstacle Nat :=
  let sum := counts.foldr (· + ·) 0
  if sum < Nat.pow 2 64 then .ok sum else .error .overflow

/-- The median is the mean of the two middle counts; of an odd number of counts these are the same
one. Of no counts there are no statistics. -/
def StateStats.ofCounts (counts : List Nat) : Except Obstacle (Option StateStats) :=
  (total counts).map fun sum =>
    let sorted := counts.mergeSort
    let n := sorted.length
    match sorted[(n - 1) / 2]?, sorted[n / 2]? with
    | some low, some high => some ⟨sum, ratio sum n, Numeral.nearest (low + high) 2⟩
    | _, _ => none

/-- Every state that is listed by some result, ascending. -/
def states (results : List RunResult) : List State :=
  State.ascending (results.flatMap fun r => r.finalCounts.map Prod.fst)

def stats (results : List RunResult) (s : State) : Except Obstacle (Option StateStats) :=
  StateStats.ofCounts (results.map fun r => r.occurrences s)

def endedNaturally (results : List RunResult) : Nat := results.countP RunResult.endedNaturally

def percentage (results : List RunResult) : Float :=
  if results.isEmpty then 0 else ratio (endedNaturally results) results.length * 100

def line (parts : List (List Char)) : List Char := parts.flatten

def text (lines : List (List Char)) : String := String.ofList (['\n'].intercalate lines)

def single (r : RunResult) : String :=
  text <|
    [line ["Dimensions: ".toList, natural r.width, ['x'], natural r.height],
      line ["Iterations: ".toList, natural r.iterations],
      "Cells at the end:".toList] ++
    r.finalCounts.map (fun p => line ["State ".toList, p.1.print, [':', '\t'], natural p.2]) ++
    [line ["Ended naturally: ".toList, (if r.endedNaturally then "true" else "false").toList]]

def statsLine (s : State) (q : StateStats) : List Char :=
  ['\t'].intercalate [s.print, natural q.sum, twoPlaces q.average, float q.median]

def statsLines (results : List RunResult) : List State → Except Obstacle (List (List Char))
  | [] => .ok []
  | s :: rest => do
    let here := (← stats results s).map (statsLine s)
    return here.toList ++ (← statsLines results rest)

/-- The report of several runs with the lines of its table. -/
def withTable (results : List RunResult) (lines : List (List Char)) : String :=
  text <|
    [line ["Simulations run: ".toList, natural results.length],
      "Cells in each state at the end:".toList,
      ['\t'].intercalate ["State".toList, "Sum".toList, "Avg".toList, "Med".toList]] ++
    lines ++
    [line ["Ended naturally: ".toList, natural (endedNaturally results)],
      line ["Which is ".toList, twoPlaces (percentage results), ['%']]]

def summary (results : List RunResult) : Except Obstacle String :=
  (statsLines results (states results)).map (withTable results)

def ofResults : List RunResult → Except Obstacle String
  | [r] => .ok (single r)
  | rs => summary rs

end CellularAutomaton.Report
