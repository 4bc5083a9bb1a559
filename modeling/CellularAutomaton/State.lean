import CellularAutomaton.Numeral.Integer

/-!
# States of cells

A state is a 32-bit signed integer. Which of them are legal is said by the rules.
-/
namespace CellularAutomaton

abbrev State := Int32

def State.print (s : State) : List Char := Numeral.integer s.toInt

/-- Adds a state to an ascending list, unless it is there. -/
def State.insert (s : State) : List State → List State
  | [] => [s]
  | t :: ts => if s < t then s :: t :: ts else if s = t then t :: ts else t :: State.insert s ts

/-- The distinct states of a list in ascending order. -/
def State.ascending (ss : List State) : List State := ss.foldr State.insert []

theorem State.mem_insert {s t : State} {ss : List State} :
    t ∈ State.insert s ss ↔ t = s ∨ t ∈ ss := by
  induction ss with
  | nil => simp [State.insert]
  | cons u us ih =>
    simp only [State.insert]
    split
    · simp
    · split
      · next h => simp [h]
      · simp [ih, or_left_comm]

@[simp] theorem State.mem_ascending {t : State} {ss : List State} :
    t ∈ State.ascending ss ↔ t ∈ ss := by
  induction ss with
  | nil => simp [State.ascending]
  | cons s ss ih =>
    rw [State.ascending, List.foldr_cons, State.mem_insert]
    simpa [State.ascending] using or_congr_right ih

end CellularAutomaton
