import CellularAutomaton.State

/-!
# The surroundings of a cell
-/
namespace CellularAutomaton

/-- The block of three rows and three columns around a cell, row by row; a place outside the world
is empty. -/
abbrev Window := Vector (Option State) 9

namespace Window

def selfSlot : Fin 9 := 4

def outerSlots : List (Fin 9) := (List.finRange 9).filter (· ≠ selfSlot)

/-- The number of surrounding cells in the state `s`; the cell itself is not counted. -/
def count (w : Window) (s : State) : Nat := outerSlots.countP fun i => w[i] = some s

end Window

end CellularAutomaton
