import CellularAutomaton.Numeral.Integer

/-!
# Coordinates and edges
-/
namespace CellularAutomaton

/-- The column and the row of a cell, both counted from zero. -/
structure Coord where
  x : Nat
  y : Nat
  deriving DecidableEq

def Coord.print (c : Coord) : List Char :=
  '(' :: Numeral.natural c.x ++ ',' :: ' ' :: Numeral.natural c.y ++ [')']

/-- One border of a world: the first row, the last column, the last row or the first column. -/
inductive Edge
  | north
  | east
  | south
  | west
  deriving DecidableEq

namespace Edge

def name : Edge → String
  | north => "north"
  | east => "east"
  | south => "south"
  | west => "west"

/-- An edge given by its name, the first letter of it, or its number, in any case of the letters. -/
def ofText? (s : String) : Option Edge :=
  let t := String.ofList (s.toList.map Char.toLower)
  if t = "n" ∨ t = "north" ∨ t = "0" then some north
  else if t = "e" ∨ t = "east" ∨ t = "1" then some east
  else if t = "s" ∨ t = "south" ∨ t = "2" then some south
  else if t = "w" ∨ t = "west" ∨ t = "3" then some west
  else none

def invalid : String := "invalid edge"

/-- Whether a place of a world of that size lies on the edge. -/
def holds (w h : Nat) (e : Edge) (x y : Nat) : Bool :=
  match e with
  | north => y = 0
  | east => x + 1 = w
  | south => y + 1 = h
  | west => x = 0

/-- The first place of the edge, in a row or a column. -/
def first (w h : Nat) : Edge → Coord
  | north => ⟨0, 0⟩
  | east => ⟨w - 1, 0⟩
  | south => ⟨0, h - 1⟩
  | west => ⟨0, 0⟩

end Edge

end CellularAutomaton
