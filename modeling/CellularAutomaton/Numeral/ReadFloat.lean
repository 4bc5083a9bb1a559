import CellularAutomaton.Numeral.Binary64
import CellularAutomaton.Numeral.Integer

/-!
# Reading doubles

A number is written with an optional sign, digits with an optional point among, before or after
them, and an optional exponent; or it is one of the words `inf`, `infinity` and `nan`, in any case.
The value is the nearest double.
-/
namespace CellularAutomaton.Numeral

/-- The double nearest to `digits * 10 ^ exponent`. Numbers far outside the range of doubles are
told by their number of digits, without computing the power. -/
def ofDecimal (digits : Nat) (exponent : Int) : Float :=
  let length := (natural digits).length
  if digits = 0 ∨ length + exponent < -400 then nearest 0 1
  else if 400 < length + exponent then infinity
  else nearest (digits * Nat.pow 10 exponent.toNat) (Nat.pow 10 (-exponent).toNat)

/-- A power of ten after the letter `e`: a sign and digits. -/
def readExponent? : List Char → Option Int
  | [] => some 0
  | c :: cs => if c = 'e' ∨ c = 'E' then readInteger? cs else none

/-- Digits, point, digits, exponent; at least one digit beside the point. -/
def readUnsignedFloat? (cs : List Char) : Option Float :=
  let whole := cs.takeWhile Char.isDigit
  let rest := cs.dropWhile Char.isDigit
  let (fraction, rest) := match rest with
    | '.' :: tail => (tail.takeWhile Char.isDigit, tail.dropWhile Char.isDigit)
    | _ => ([], rest)
  if whole.isEmpty && fraction.isEmpty then none
  else (readExponent? rest).map fun exponent =>
    ofDecimal (Nat.ofDigitChars 10 (whole ++ fraction) 0) (exponent - fraction.length)

def readMagnitude? (cs : List Char) : Option Float :=
  let word := String.ofList (cs.map Char.toLower)
  if word = "inf" ∨ word = "infinity" then some infinity
  else if word = "nan" then some notANumber
  else readUnsignedFloat? cs

def readFloat? : List Char → Option Float
  | '-' :: cs => (readMagnitude? cs).map fun x => -x
  | '+' :: cs => readMagnitude? cs
  | cs => readMagnitude? cs

end CellularAutomaton.Numeral
