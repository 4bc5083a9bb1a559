import CellularAutomaton.Document.Yaml.Cursor

/-!
# Gaps between words

A scalar in quotes or without any may go over several lines. The blanks around the end of a line do
not belong to it; a single end of a line stands for a blank, and of several the first does not
count.
-/
namespace CellularAutomaton.Document.Yaml

/-- Blanks and ends of lines between two words. -/
structure Gap where
  /-- The blanks before the first end of a line. -/
  blanks : List Char
  /-- Whether a line ends in the gap. -/
  broken : Bool
  /-- The first end of a line, unless it is escaped. -/
  first : Option Char
  /-- The other ends of lines. -/
  others : List Char

namespace Gap

def none : Gap := ⟨[], false, .none, []⟩

/-- A gap that begins with an escaped end of a line. -/
def escaped : Gap := ⟨[], true, .none, []⟩

def addBreak (g : Gap) (b : Char) : Gap :=
  if g.broken then { g with others := g.others ++ [b] }
  else { g with broken := true, first := some b }

def text (g : Gap) : List Char :=
  if g.broken then
    match g.first with
    | some '\n' => if g.others.isEmpty then [' '] else g.others
    | some b => b :: g.others
    | .none => g.others
  else g.blanks

/-- Reads on over a gap. On a new line no tab may stand before the column `indent`. -/
def read? (indent : Nat) : Nat → Gap → Cursor → Option (Gap × Cursor)
  | 0, g, c => some (g, c)
  | fuel + 1, g, c =>
    match c.newline? with
    | some (b, next) => read? indent fuel (g.addBreak b) next
    | .none =>
      let blanks := c.rest.takeWhile isBlank
      let next := c.skip blanks.length
      if blanks.isEmpty then some (g, c)
      else if !g.broken then read? indent fuel { g with blanks } next
      else if (blanks.take (indent - c.column)).contains '\t' then .none
      else read? indent fuel g next

end Gap

end CellularAutomaton.Document.Yaml
