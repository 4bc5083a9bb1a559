import CellularAutomaton.Text.Ranges
import CellularAutomaton.Text.Table.Alphabetic
import CellularAutomaton.Text.Table.Numeric

/-!
# Classes of characters

Blanks, letters and letters-or-numbers are the Unicode notions: the property White_Space, the
property Alphabetic, and Alphabetic together with the general categories Nd, Nl and No.
-/
namespace CellularAutomaton.Text

/-- Code points with the Unicode property White_Space, as ascending closed ranges. -/
def blankRanges : List (Nat × Nat) := [
  (0x9, 0xD), (0x20, 0x20), (0x85, 0x85), (0xA0, 0xA0), (0x1680, 0x1680), (0x2000, 0x200A),
  (0x2028, 0x2029), (0x202F, 0x202F), (0x205F, 0x205F), (0x3000, 0x3000)]

def isBlank (c : Char) : Bool := inRanges blankRanges c.toNat

def isAlphabetic (c : Char) : Bool := inRanges alphabeticRanges c.toNat

def isAlphanumeric (c : Char) : Bool := isAlphabetic c || inRanges numericRanges c.toNat

end CellularAutomaton.Text
