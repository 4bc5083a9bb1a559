/-!
# Doubles as multiples of the smallest one

A finite double is a mantissa below `2 ^ 53` times a power of two. Counted in units of `2 ^
(-1074)`, the smallest positive double, every finite one is a natural number with a sign, and
rounding a fraction to the nearest double is a single division.
-/
namespace CellularAutomaton.Numeral

/-- The quotient rounded to the nearest whole number, a half to the even neighbour. -/
def roundHalfEven (num den : Nat) : Nat :=
  let q := num / den
  let r := num % den
  if den < 2 * r ∨ (den = 2 * r ∧ q % 2 = 1) then q + 1 else q

/-- The number of smallest units in one. -/
def unitsPerOne : Nat := 1 <<< 1074

/-- The magnitude of a finite double, `mantissa * 2 ^ shift` smallest units. -/
structure Magnitude where
  mantissa : Nat
  shift : Nat

def Magnitude.units (m : Magnitude) : Nat := m.mantissa <<< m.shift

def isNegative (x : Float) : Bool := 1 <<< 63 ≤ x.toBits.toNat

/-- Only meaningful for a finite double. -/
def magnitude (x : Float) : Magnitude :=
  let bits := x.toBits.toNat % (1 <<< 63)
  let fraction := bits % (1 <<< 52)
  let exponent := bits >>> 52
  if exponent = 0 then ⟨fraction, 0⟩ else ⟨(1 <<< 52) + fraction, exponent - 1⟩

def infinityBits : Nat := 0x7FF0000000000000

/-- The non-negative double nearest to `num / den`, a half to the even mantissa; beyond the largest
double it is infinity. The mantissa is added to the exponent field with its leading bit, so that a
mantissa rounded up to the next power of two carries into the exponent. -/
def nearest (num den : Nat) : Float :=
  let units := num * unitsPerOne
  let shift := (units / den).log2 - 52
  let bits := (shift <<< 52) + roundHalfEven units (den <<< shift)
  Float.ofBits (UInt64.ofNat (min bits infinityBits))

def infinity : Float := Float.ofBits 0x7FF0000000000000

def notANumber : Float := Float.ofBits 0x7FF8000000000000

end CellularAutomaton.Numeral
