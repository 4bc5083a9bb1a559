import CellularAutomaton.Numeral.Binary64
import CellularAutomaton.Numeral.Integer

/-!
# Doubles rounded to two places
-/
namespace CellularAutomaton.Numeral

/-- A number of hundredths with a point and two places. -/
def hundredths (n : Nat) : List Char :=
  natural (n / 100) ++ '.' :: Nat.digitChar (n % 100 / 10) :: [Nat.digitChar (n % 10)]

/-- The exact value of a finite double rounded to two places, a half to the even neighbour. -/
def twoPlaces (x : Float) : List Char :=
  (if isNegative x then ['-'] else []) ++
    hundredths (roundHalfEven (100 * (magnitude x).units) unitsPerOne)

end CellularAutomaton.Numeral
