import CellularAutomaton.Coord
import CellularAutomaton.Rule.Window

/-!
# Rectangular grids

A grid keeps one value for each cell in a single buffer, row by row: the first row from left to
right, then the second, and so on. Lists of all cells are in this order too.
-/
namespace CellularAutomaton

structure Grid (α : Type u) (w h : Nat) where
  buffer : Vector α (w * h)
  deriving DecidableEq

namespace Grid

variable {α : Type u} {w h : Nat}

def place (x : Fin w) (y : Fin h) : Fin (w * h) where
  val := y.val * w + x.val
  isLt := by
    have row : (y.val + 1) * w ≤ h * w := Nat.mul_le_mul_right w y.isLt
    rw [Nat.add_mul, Nat.one_mul, Nat.mul_comm h w] at row
    exact Nat.lt_of_lt_of_le (Nat.add_lt_add_left x.isLt _) row

def get (g : Grid α w h) (x : Fin w) (y : Fin h) : α := g.buffer[place x y]

def set (g : Grid α w h) (x : Fin w) (y : Fin h) (a : α) : Grid α w h :=
  ⟨g.buffer.set (place x y) a⟩

def replicate (a : α) : Grid α w h := ⟨Vector.replicate (w * h) a⟩

/-- The column and the row of a coordinate that may lie outside. -/
def locate? (c : Coord) : Option (Fin w × Fin h) :=
  if inside : c.x < w ∧ c.y < h then some (⟨c.x, inside.1⟩, ⟨c.y, inside.2⟩) else none

def get? (g : Grid α w h) (c : Coord) : Option α := (locate? c).map fun p => g.get p.1 p.2

/-- All columns and rows, in the order of the buffer. -/
def places (w h : Nat) : List (Fin w × Fin h) :=
  (List.finRange h).flatMap fun y => (List.finRange w).map fun x => (x, y)

def toList (g : Grid α w h) : List α := g.buffer.toList

def toLists (g : Grid α w h) : List (List α) :=
  (List.finRange h).map fun y => (List.finRange w).map fun x => g.get x y

/-- The surroundings of the cell in column `x` and row `y`. -/
def window (g : Grid State w h) (x : Fin w) (y : Fin h) : Window :=
  Vector.ofFn fun k =>
    let column := x.val + k.val % 3
    let row := y.val + k.val / 3
    if 1 ≤ column ∧ 1 ≤ row then g.get? ⟨column - 1, row - 1⟩ else none

end Grid

end CellularAutomaton
