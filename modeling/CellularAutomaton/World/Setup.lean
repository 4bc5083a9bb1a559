import CellularAutomaton.Random.ChaCha
import CellularAutomaton.World.Basic

/-!
# Setting up a world

Randomizing starts a world over. After it and before the first step single cells may be set, and one
edge may be forced into a state; the history tells nothing of that.
-/
namespace CellularAutomaton

/-- The coordinates along an edge, from its first place on. -/
def Edge.places (w h : Nat) : Edge → List Coord
  | north => (List.range w).map fun k => ⟨k, 0⟩
  | east => (List.range h).map fun k => ⟨w - 1, k⟩
  | south => (List.range w).map fun k => ⟨k, h - 1⟩
  | west => (List.range h).map fun k => ⟨0, k⟩

namespace World

variable {w h : Nat}

/-- Gives cells the states that the words draw, one word for each cell, and records these in round
zero. A draw that finds no state ends it. -/
def drawCells (words : Random.Words) :
    List (Fin w × Fin h) → World w h → Except Error Unit × World w h
  | [], world => (.ok (), world)
  | (x, y) :: rest, world =>
    match world.sampler.sample world.rules.states (Random.draw (words (Grid.place x y))) with
    | .error e => (.error e, world)
    | .ok s =>
      drawCells words rest
        { world with
          cells := world.cells.set x y s
          history := world.history.record 0 none s }

def randomize (world : World w h) (words : Random.Words) : Except Error Unit × World w h :=
  let blank := { world with history := .start world.rules.states, iteration := 0, seeded := false }
  match blank.drawCells words (Grid.places w h) with
  | (.error e, last) => (.error e, last)
  | (.ok (), last) => (.ok (), { last with status := .randomized })

/-- Whether cells may be set at all, and the cell at `c` to the state `s`. -/
def checkSetup (world : World w h) (c : Coord) (s : State) : Except Error Unit :=
  if world.status ≠ .randomized then .error .seedNotAllowed
  else if world.strict && !world.rules.isPossible s then .error (.invalidState c s)
  else .ok ()

/-- Sets cells to the state `s`, up to the first coordinate outside the world. -/
def setCells (s : State) : List Coord → World w h → Except Error Unit × World w h
  | [], world => (.ok (), world)
  | c :: rest, world =>
    match locate w h c with
    | .error e => (.error e, world)
    | .ok (x, y) => setCells s rest { world with cells := world.cells.set x y s }

def seedEdge (world : World w h) (edge : Edge) (s : State) : Except Error Unit × World w h :=
  match world.checkSetup (edge.first w h) s with
  | .error e => (.error e, world)
  | .ok () =>
    if world.seeded then (.error .seedNotAllowed, world)
    else match world.setCells s (edge.places w h) with
      | (.error e, last) => (.error e, last)
      | (.ok (), last) => (.ok (), { last with seeded := true })

def setCell (world : World w h) (c : Coord) (s : State) : Except Error Unit × World w h :=
  match locate w h c with
  | .error e => (.error e, world)
  | .ok (x, y) =>
    match world.checkSetup c s with
    | .error e => (.error e, world)
    | .ok () => (.ok (), { world with cells := world.cells.set x y s })

end World

end CellularAutomaton
