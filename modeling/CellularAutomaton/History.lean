import CellularAutomaton.State

/-!
# Histories

For each round a history counts the cells that entered and left each of the tracked states. Round
zero is the initialization, round `n` the `n`-th step. Moves from or to other states are only
counted on the side that is tracked.
-/
namespace CellularAutomaton

/-- How many cells entered a state, and how many left it as a number that is never positive. -/
structure Delta where
  entered : Int
  left : Int
  deriving DecidableEq

/-- One delta for each tracked state, in the order of the states. -/
abbrev Round := List Delta

namespace Round

def empty (states : List State) : Round := List.replicate states.length ⟨0, 0⟩

/-- Counts a cell that left the state with the index `i`; without an index nothing is counted. -/
def leave (r : Round) : Option Nat → Round
  | some i => r.modify i fun d => { d with left := d.left - 1 }
  | none => r

/-- Counts a cell that entered the state with the index `i`; without an index nothing is counted. -/
def enter (r : Round) : Option Nat → Round
  | some i => r.modify i fun d => { d with entered := d.entered + 1 }
  | none => r

def entered (r : Round) : Int := r.foldr (fun d n => d.entered + n) 0

def left (r : Round) : Int := r.foldr (fun d n => d.left + n) 0

end Round

structure History where
  /-- The tracked states, ascending. The place of a state in this list is its index in each
  round. -/
  states : List State
  rounds : Array Round
  deriving DecidableEq

namespace History

def start (states : List State) : History := ⟨State.ascending states, #[]⟩

def reach (round : Nat) : History → History
  | ⟨states, rounds⟩ =>
    ⟨states, rounds ++ Array.replicate (round + 1 - rounds.size) (Round.empty states)⟩

/-- The round after one more cell went from `before` to `after`. -/
def move (states : List State) (before : Option State) (after : State) (r : Round) : Round :=
  (r.leave (before.bind fun s => states.idxOf? s)).enter (states.idxOf? after)

/-- Records that a cell went from `before` to `after`; `before` is missing if the cell had no state
yet. A cell that stays as it is only makes sure that the round exists. -/
def record (h : History) (round : Nat) (before : Option State) (after : State) : History :=
  match h.reach round with
  | ⟨states, rounds⟩ =>
    ⟨states, if before = some after then rounds else rounds.modify round (move states before after)⟩

def round? (h : History) (round : Nat) : Option Round := h.rounds[round]?

def delta? (h : History) (round : Nat) (s : State) : Option Delta := do
  let i ← h.states.idxOf? s
  let r ← h.round? round
  r[i]?

/-- The number of changes in each round, as a word of 64 bits; for round zero the number of
initialized cells. -/
def changes (h : History) : List UInt64 := h.rounds.toList.map fun r => UInt64.ofInt r.entered

/-- For each round how many cells entered and left some tracked state. -/
def totals (h : History) : List Delta := h.rounds.toList.map fun r => ⟨r.entered, r.left⟩

end History

end CellularAutomaton
