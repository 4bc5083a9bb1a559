import CellularAutomaton.Document.Value
import CellularAutomaton.Numeral.ReadFloat

/-!
# Numbers of JSON texts

A number without a point and an exponent is an integer if it fits into 64 bits, with a sign or
without. Every other number is a double, computed in two steps: its digits are rounded as one whole
number of 64 bits, and that is multiplied with or divided by a power of ten. A number beyond the
range of doubles cannot be read.
-/
namespace CellularAutomaton.Document.Json

/-- Digits as a whole number below `2 ^ 64` and the power of ten that it has to be multiplied
with. -/
structure Scaled where
  significand : Nat
  exponent : Int
  /-- Whether a digit did not fit any more. -/
  full : Bool

namespace Scaled

def fits (s : Scaled) (digit : Char) : Bool :=
  !s.full && decide (s.significand * 10 + (digit.toNat - 48) < UInt64.size)

def append (s : Scaled) (digit : Char) : Scaled :=
  { s with significand := s.significand * 10 + (digit.toNat - 48) }

/-- A digit before the point; once one does not fit, all later ones only count for the exponent. -/
def whole (s : Scaled) (digit : Char) : Scaled :=
  if s.fits digit then s.append digit
  else { s with exponent := s.exponent + 1, full := true }

/-- A digit after the point; once one does not fit, all later ones are dropped. -/
def fraction (s : Scaled) (digit : Char) : Scaled :=
  if s.fits digit then { s.append digit with exponent := s.exponent - 1 }
  else { s with full := true }

def ofDigits (whole fraction : List Char) : Scaled :=
  let s := whole.foldl Scaled.whole ⟨0, 0, false⟩
  fraction.foldl Scaled.fraction { s with full := false }

def powerOfTen (n : Nat) : Float := Numeral.ofDecimal 1 n

/-- Divides by `10 ^ n`, by no more than `10 ^ 308` at once. -/
def divideBy (x : Float) (n : Nat) : Float :=
  let rounds := (n - 1) / 308
  Nat.repeat (· / powerOfTen 308) (min rounds 4) x / powerOfTen (n - 308 * rounds)

/-- The magnitude, after the significand has been scaled by a further power of ten, if it is in
range. -/
def toFloat? (s : Scaled) (exponent : Int) : Option Float :=
  let e := s.exponent + exponent
  let x := (UInt64.ofNat s.significand).toFloat
  if s.significand = 0 then some x
  else if e < 0 then some (divideBy x (-e).toNat)
  else if 308 < e then none
  else
    let y := x * powerOfTen e.toNat
    if y.isInf then none else some y

end Scaled

/-- The value of a number given by its sign, the digits before and after the point, and the
exponent; the last two may be missing. -/
def ofParts (negative : Bool) (whole : List Char) (fraction : Option (List Char))
    (exponent : Option Int) : Value :=
  let n := Nat.ofDigitChars 10 whole 0
  if fraction.isNone && exponent.isNone && !negative && n < UInt64.size then .integer n
  else if fraction.isNone && exponent.isNone && negative && 0 < n && Int64.minValue.toInt ≤ -n then
    .integer (-n)
  else
    match (Scaled.ofDigits whole (fraction.getD [])).toFloat? (exponent.getD 0) with
    | some x => .float (if negative then -x else x)
    | none => .unreadable

def digits (cs : List Char) : List Char × List Char :=
  (cs.takeWhile Char.isDigit, cs.dropWhile Char.isDigit)

/-- The digits after a point, if there is one; `none` if no digit follows it. -/
def fraction? : List Char → Option (Option (List Char) × List Char)
  | '.' :: cs => if (digits cs).1.isEmpty then none else some (some (digits cs).1, (digits cs).2)
  | cs => some (none, cs)

/-- The exponent after the letter `e`, if there is one; `none` if no digit follows it. -/
def exponent? : List Char → Option (Option Int × List Char)
  | [] => some (none, [])
  | c :: cs =>
    if c = 'e' ∨ c = 'E' then
      let (sign, rest) := match cs with
        | '-' :: r => ((-1 : Int), r)
        | '+' :: r => (1, r)
        | _ => (1, cs)
      if (digits rest).1.isEmpty then none
      else some (some (sign * Nat.ofDigitChars 10 (digits rest).1 0), (digits rest).2)
    else some (none, c :: cs)

/-- Reads a number from the start of the text. A leading zero is a number part of its own. -/
def number? (cs : List Char) : Option (Value × List Char) := do
  let (negative, cs) := match cs with
    | '-' :: r => (true, r)
    | _ => (false, cs)
  let (whole, rest) := digits cs
  if whole.isEmpty || (whole.head? = some '0' && whole.length ≠ 1) then none
  else
    let (fraction, rest) ← fraction? rest
    let (exponent, rest) ← exponent? rest
    some (ofParts negative whole fraction exponent, rest)

end CellularAutomaton.Document.Json
