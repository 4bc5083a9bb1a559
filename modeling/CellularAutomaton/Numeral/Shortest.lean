import CellularAutomaton.Numeral.Binary64
import CellularAutomaton.Numeral.Integer

/-!
# Shortest decimal text of a double

Of the decimal numbers that round to a double, the one with the fewest digits is written, and of
several the nearest. They are searched on the grids of multiples of powers of ten, from coarse to
fine: if a grid has a point in the rounding interval, one of the two neighbours of the double on
that grid is such a point.
-/
namespace CellularAutomaton.Numeral

structure Decimal where
  digits : Nat
  exponent : Int

/-- The interval of numbers that round to a positive double, in quarters of the smallest unit. The
gap below a power of two is half as wide; the ends belong to the interval if the mantissa is
even. -/
structure Interval where
  value : Nat
  lower : Nat
  upper : Nat
  closed : Bool

def Magnitude.interval (m : Magnitude) : Interval :=
  let gap := 1 <<< m.shift
  { value := 4 * m.units
    lower := 4 * m.units - if m.mantissa = 1 <<< 52 ∧ 0 < m.shift then gap else 2 * gap
    upper := 4 * m.units + 2 * gap
    closed := m.mantissa % 2 = 0 }

/-- Whether `num / den` quarters of a unit lie in the interval. -/
def Interval.holds (i : Interval) (num den : Nat) : Bool :=
  if i.closed then i.lower * den ≤ num && num ≤ i.upper * den
  else i.lower * den < num && num < i.upper * den

/-- The multiple of `10 ^ exponent` to write, if this grid has one in the interval. A double halfway
between two such multiples goes to the larger one. -/
def Interval.onGrid (i : Interval) (exponent : Int) : Option Nat :=
  -- a grid step is `num / den` quarters of a unit
  let num := 4 * unitsPerOne * Nat.pow 10 exponent.toNat
  let den := Nat.pow 10 (-exponent).toNat
  let below := i.value * den / num
  let low := i.holds (below * num) den
  let high := i.holds ((below + 1) * num) den
  if high && (!low || num ≤ 2 * (i.value * den % num)) then some (below + 1)
  else if low then some below
  else none

/-- Tries ever finer grids, beginning with `10 ^ exponent`. -/
def Interval.search (i : Interval) : Nat → Int → Decimal
  | 0, exponent => ⟨0, exponent⟩
  | tries + 1, exponent =>
    match i.onGrid exponent with
    | some digits => ⟨digits, exponent⟩
    | none => i.search tries (exponent - 1)

/-- The shortest decimal number that rounds to the positive double. The first grid is coarser than
the double itself, and some grid of at most seventeen digits has a point in the interval. -/
def Magnitude.shortest (m : Magnitude) : Decimal :=
  let log10 : Int := ((m.units.log2 : Int) - 1074) * 30103 / 100000
  m.interval.search 24 (log10 + 3)

/-- Plain positional notation: no exponent is ever written, and no point without a digit after
it. -/
def Decimal.positional (d : Decimal) : List Char :=
  if 0 ≤ d.exponent then natural (d.digits * Nat.pow 10 d.exponent.toNat)
  else
    let places := (-d.exponent).toNat
    let one := Nat.pow 10 places
    let fraction := natural (d.digits % one)
    natural (d.digits / one) ++
      '.' :: List.replicate (places - fraction.length) '0' ++ fraction

def float (x : Float) : List Char :=
  if x.isNaN then ['N', 'a', 'N']
  else
    let sign := if isNegative x then ['-'] else []
    if x.isInf then sign ++ ['i', 'n', 'f']
    else
      let m := magnitude x
      sign ++ if m.mantissa = 0 then ['0'] else m.shortest.positional

end CellularAutomaton.Numeral
