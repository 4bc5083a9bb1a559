import CellularAutomaton.Proofs.Drawing
import CellularAutomaton.Proofs.Influence
import CellularAutomaton.Proofs.Text.Fields

/-!
# Cells read back from the text of a world

The text that displays a world is a table of its cells: one line for each row, and in it one field
for each column. The decimal form of a state has neither blanks nor line breaks, so that the table
can be taken apart again, and each field is read as the state that was written. So the text
determines the size of a world and all of its cells.
-/

namespace CellularAutomaton

variable {w h w' h' : ℕ}

/-! ## Taking tables apart -/

theorem exists_of_getElem?_map_finRange {α : Type*} {n i : ℕ} {f : Fin n → α} {a : α}
    (there : ((List.finRange n).map f)[i]? = some a) : ∃ k : Fin n, k.val = i ∧ f k = a := by
  obtain ⟨below, rfl⟩ := List.getElem?_eq_some_iff.1 there
  exact ⟨⟨i, by simpa using below⟩, rfl, by simp⟩

theorem State.not_mem_print {c : Char} (noSign : c ≠ '-') (noDigit : c.isDigit = false)
    (s : State) :
    c ∉ s.print := by
  intro inside
  obtain rfl | digit := Numeral.mem_integer inside
  · exact noSign rfl
  · rw [noDigit] at digit
    cases digit

namespace Grid

variable (g : Grid State w h)

def line (y : Fin h) : List Char :=
  [' '].intercalate ((List.finRange w).map fun x => (g.get x y).print)

theorem splitOn_line (wide : 0 < w) (y : Fin h) :
    (g.line y).splitOn ' ' = (List.finRange w).map fun x => (g.get x y).print := by
  refine List.splitOn_intercalate ' ' ?_ (by simpa using wide.ne')
  intro field inside
  obtain ⟨x, -, rfl⟩ := List.mem_map.1 inside
  exact State.not_mem_print (by decide) rfl _

theorem newline_not_mem_line (y : Fin h) : '\n' ∉ g.line y := by
  intro broken
  obtain blank | ⟨field, inside, broken⟩ := Text.mem_intercalate broken
  · cases blank
  · obtain ⟨x, -, rfl⟩ := List.mem_map.1 inside
    exact State.not_mem_print (by decide) rfl _ broken

theorem splitOn_text (high : 0 < h) :
    g.text.toList.splitOn '\n' = (List.finRange h).map g.line := by
  have lines : g.text.toList = ['\n'].intercalate ((List.finRange h).map g.line) := by
    rw [text, String.toList_ofList, World.displayRows, toLists, List.map_map, List.map_map]
    refine congrArg _ (List.map_congr_left fun y _ => ?_)
    simp [line, Function.comp_def]
  rw [lines]
  refine List.splitOn_intercalate '\n' ?_ (by simpa using high.ne')
  intro l inside
  obtain ⟨y, -, rfl⟩ := List.mem_map.1 inside
  exact g.newline_not_mem_line y

end Grid

/-! ## Texts that show worlds -/

/-- The text consists of one line for each row of the world. In each line there is one field for
each column, which is read as the state of the cell in this column and row. -/
structure World.ShownBy (world : World w h) (text : List Char) : Prop where
  lines : (text.splitOn '\n').length = h
  fields : ∀ line ∈ text.splitOn '\n', (line.splitOn ' ').length = w
  states : ∀ y line, (text.splitOn '\n')[y]? = some line →
    ∀ x field, (line.splitOn ' ')[x]? = some field →
    ∃ s, Numeral.readInt32? field = some s ∧ world.cell ⟨x, y⟩ = .ok (some s)

namespace World

variable {world : World w h} {other : World w' h'} {text : List Char}

theorem shownBy_display (wide : 0 < w) (high : 0 < h) (begun : world.status ≠ .uninitialized) :
    world.ShownBy world.display.toList := by
  rw [display_of_begun begun]
  constructor
  case lines => simp [Grid.splitOn_text _ high]
  case fields =>
    intro line inside
    rw [Grid.splitOn_text _ high] at inside
    obtain ⟨y, -, rfl⟩ := List.mem_map.1 inside
    simp [Grid.splitOn_line _ wide]
  case states =>
    intro y line row x field column
    rw [Grid.splitOn_text _ high] at row
    obtain ⟨y, rfl, rfl⟩ := exists_of_getElem?_map_finRange row
    rw [Grid.splitOn_line _ wide] at column
    obtain ⟨x, rfl, rfl⟩ := exists_of_getElem?_map_finRange column
    exact ⟨_, Numeral.readInt32?_integer _, cell_of_begun begun x y⟩

namespace ShownBy

theorem length_eq (shown : world.ShownBy text) (shown' : other.ShownBy text) : h' = h :=
  shown'.lines.symm.trans shown.lines

theorem width_eq (high : 0 < h) (shown : world.ShownBy text) (shown' : other.ShownBy text) :
    w' = w := by
  have below : 0 < (text.splitOn '\n').length := by rwa [shown.lines]
  have first := List.getElem_mem below
  exact (shown'.fields _ first).symm.trans (shown.fields _ first)

theorem cell_eq {other : World w h} (shown : world.ShownBy text) (shown' : other.ShownBy text)
    (c : Coord) :
    other.cell c = world.cell c := by
  by_cases inside : c.x < w ∧ c.y < h
  · have row : c.y < (text.splitOn '\n').length := by
      rw [shown.lines]
      exact inside.2
    have column : c.x < ((text.splitOn '\n')[c.y].splitOn ' ').length := by
      rw [shown.fields _ (List.getElem_mem row)]
      exact inside.1
    have line := List.getElem?_eq_getElem row
    have field := List.getElem?_eq_getElem column
    obtain ⟨s, read, cell⟩ := shown.states _ _ line _ _ field
    obtain ⟨s', read', cell'⟩ := shown'.states _ _ line _ _ field
    obtain rfl : s = s' := Option.some.inj (read.symm.trans read')
    exact cell'.trans cell.symm
  · rw [cell_of_outside inside, cell_of_outside inside]

end ShownBy

end World

/-- A world that has been randomized is shown by the text that displays it: it consists of as many
lines as there are rows, each line of as many fields as there are columns, and each field is read as
the state of its cell. So worlds with equal texts have the same size and the same cells. -/
theorem Reachable.display_determines_cells {world : World w h} (reachable : Reachable world)
    (begun : world.status ≠ .uninitialized) :
    world.ShownBy world.display.toList ∧
      ∀ {w' h' : ℕ} {other : World w' h'}, Reachable other → other.status ≠ .uninitialized →
        other.display = world.display → w' = w ∧ h' = h ∧ ∀ c, other.cell c = world.cell c := by
  have shown := World.shownBy_display reachable.sound.wide reachable.sound.high begun
  refine ⟨shown, ?_⟩
  intro w' h' other reachable' begun' same
  have shown' := World.shownBy_display reachable'.sound.wide reachable'.sound.high begun'
  rw [same] at shown'
  obtain rfl := shown.length_eq shown'
  obtain rfl := shown.width_eq reachable.sound.high shown'
  exact ⟨rfl, rfl, shown.cell_eq shown'⟩

def pasture : World 2 3 where
  rules := forestRules
  sampler := ⟨[0.5, 0.75, 1]⟩
  cells := .replicate 0
  scratch := .replicate 0
  history := ⟨[0, 1, 2], #[]⟩
  iteration := 0
  status := .uninitialized
  seeded := false
  strict := false

def meadow : World 2 3 :=
  { pasture with
    cells := Grid.ofFn fun x y => if x.val = 1 ∧ y.val = 0 then -12 else 0
    history := ⟨[0, 1, 2], #[[⟨6, 0⟩, ⟨0, 0⟩, ⟨0, 0⟩]]⟩
    status := .randomized }

theorem reachable_meadow : Reachable meadow := by
  have made : World.new 2 3 forestRules = .ok pasture := by decide +kernel
  have set : Operation.performAll pasture [.randomize fun _ => 0, .setCell ⟨1, 0⟩ (-12)] =
    meadow := by decide +kernel
  rw [← set]
  exact Operation.reachable_performAll (.new (by decide) made) _

/-- The second field of the first line tells the state of the cell, and no world of one row has this
text. -/
theorem Reachable.display_determines_cells_meadow :
    Reachable meadow ∧ meadow.status ≠ .uninitialized ∧ meadow.display = "0 -12\n0 0\n0 0" ∧
      (∃ s, Numeral.readInt32? "-12".toList = some s ∧ meadow.cell ⟨1, 0⟩ = .ok (some s)) ∧
      ∀ other : World 6 1, Reachable other → other.status ≠ .uninitialized →
        other.display ≠ "0 -12\n0 0\n0 0" := by
  have begun : meadow.status ≠ .uninitialized := by decide
  have display : meadow.display = "0 -12\n0 0\n0 0" := by decide +kernel
  obtain ⟨shown, unique⟩ := reachable_meadow.display_determines_cells begun
  rw [display] at shown unique
  refine ⟨reachable_meadow, begun, display, ?_, ?_⟩
  · exact shown.states 0 "0 -12".toList (by decide +kernel) 1 "-12".toList (by decide +kernel)
  · intro other reachable begun' same
    obtain ⟨-, rows, -⟩ := unique reachable begun' same
    cases rows

end CellularAutomaton
