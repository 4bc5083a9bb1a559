import CellularAutomaton.World.Basic

/-!
# Steps

All cells go to their next states at once: the next generation is built in a second buffer, and then
the two buffers change places.
-/
namespace CellularAutomaton

variable {w h : Nat}

/-- The next state of one cell; with `strict` it has to be a possible one. -/
def RuleSet.nextCell (r : RuleSet) (strict : Bool) (cells : Grid State w h) (x : Fin w)
    (y : Fin h) :
    Except Error State :=
  match r.nextState (cells.get x y) (cells.window x y) with
  | .error e => .error (.evaluation e)
  | .ok s => if strict && !r.isPossible s then .error (.invalidState ⟨x, y⟩ s) else .ok s

/-- Writes the next states of cells into `scratch`, up to the first cell that has none. -/
def RuleSet.fill (r : RuleSet) (strict : Bool) (cells : Grid State w h) :
    List (Fin w × Fin h) → Grid State w h → Except Error Unit × Grid State w h
  | [], scratch => (.ok (), scratch)
  | (x, y) :: rest, scratch =>
    match r.nextCell strict cells x y with
    | .error e => (.error e, scratch)
    | .ok s => r.fill strict cells rest (scratch.set x y s)

def Grid.distance (a b : Grid State w h) : Nat := (a.toList.zip b.toList).countP fun p => p.1 ≠ p.2

/-- Records in a round that each cell of `before` went to the same cell of `after`. -/
def History.recordAll (past : History) (round : Nat) (before after : Grid State w h) : History :=
  (before.toList.zip after.toList).foldl (fun past p => past.record round (some p.1) p.2) past

namespace World

def withScratch (scratch : Grid State w h) (world : World w h) : World w h := { world with scratch }

/-- The world after a step to the given generation. The buffer of the old one is kept for the next
step. -/
def advance (next : Grid State w h) (world : World w h) : World w h :=
  { world with
    cells := next
    scratch := world.cells
    history := world.history.recordAll (world.iteration + 1) world.cells next
    iteration := world.iteration + 1
    status := if world.cells.distance next = 0 then .converged else .running }

/-- Makes one step, and tells how many cells changed. A converged world stays as it is. -/
def step (world : World w h) : Except Error Nat × World w h :=
  match world.status with
  | .uninitialized => (.error .notRandomized, world)
  | .converged => (.ok 0, world)
  | .randomized | .running =>
    match world.rules.fill world.strict world.cells (Grid.places w h) world.scratch with
    | (.error e, scratch) => (.error e, world.withScratch scratch)
    | (.ok (), scratch) => (.ok (world.cells.distance scratch), world.advance scratch)

end World

end CellularAutomaton
