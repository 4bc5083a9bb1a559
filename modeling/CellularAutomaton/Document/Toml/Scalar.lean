import CellularAutomaton.Document.Json.Text
import CellularAutomaton.Document.Value
import CellularAutomaton.Numeral.ReadFloat

/-!
# Scalars of TOML documents

Words are booleans, integers, floats, dates and times. A date or time is kept as its text, since no
entry of a configuration holds one.
-/
namespace CellularAutomaton.Document.Toml

/-- Digits of which underscores may stand between any two. -/
def grouped? (isDigit : Char → Bool) (cs : List Char) : Option (List Char) :=
  let groups := cs.splitOn '_'
  if groups.all fun g => !g.isEmpty && g.all isDigit then some groups.flatten else none

/-- Grouped decimal digits without a leading zero. -/
def whole? (cs : List Char) : Option (List Char) :=
  (grouped? Char.isDigit cs).bind fun ds =>
    if ds.head? = some '0' ∧ ds.length ≠ 1 then none else some ds

def splitSign : List Char → Bool × List Char
  | '-' :: cs => (true, cs)
  | '+' :: cs => (false, cs)
  | cs => (false, cs)

def radix? (base : Nat) (cs : List Char) : Option Int := do
  let ds ← grouped? (fun c => ((Json.hexDigit? c).map (decide <| · < base)).getD false) cs
  return ds.foldl (fun n c => n * (base : Int) + ((Json.hexDigit? c).getD 0 : Nat)) 0

def integer? (cs : List Char) : Option Value := do
  let n : Int ← match cs with
    | '0' :: 'x' :: ds => radix? 16 ds
    | '0' :: 'o' :: ds => radix? 8 ds
    | '0' :: 'b' :: ds => radix? 2 ds
    | _ =>
      let (negative, ds) := splitSign cs
      (whole? ds).map fun ds =>
        let n : Int := Nat.ofDigitChars 10 ds 0
        if negative then -n else n
  (Numeral.int64? n).map fun v => .integer v.toInt

/-- The fraction of a float, with its point, without underscores. -/
def fraction? : List Char → Option (List Char)
  | [] => some []
  | '.' :: cs => (grouped? Char.isDigit cs).map ('.' :: ·)
  | _ => none

def exponent? : List Char → Option (List Char)
  | [] => some []
  | _ :: cs =>
    let (negative, ds) := splitSign cs
    (grouped? Char.isDigit ds).map fun ds => 'e' :: (if negative then '-' :: ds else ds)

def isExponentMark (c : Char) : Bool := c = 'e' || c = 'E'

/-- A float has a fraction or an exponent, or is infinite or not a number by name. Numbers above the
range are refused, those below it are infinite. -/
def float? (cs : List Char) : Option Value := do
  let (negative, rest) := splitSign cs
  let magnitude ←
    if rest = "inf".toList then some Numeral.infinity
    else if rest = "nan".toList then some Numeral.notANumber
    else
      let mantissa := rest.takeWhile fun c => !isExponentMark c
      let digits ← whole? (mantissa.takeWhile (· ≠ '.'))
      let fraction ← fraction? (mantissa.dropWhile (· ≠ '.'))
      let exponent ← exponent? (rest.dropWhile fun c => !isExponentMark c)
      if fraction.isEmpty && exponent.isEmpty then none
      else
        let x ← Numeral.readUnsignedFloat? (digits ++ fraction ++ exponent)
        if x.isInf && !negative then none else some x
  return .float (if negative then -magnitude else magnitude)

/-- Whether a text has the given shape, in which `0` is for a digit and any other character for
itself. -/
def hasShape (shape : String) (cs : List Char) : Bool :=
  shape.length = cs.length &&
    (shape.toList.zip cs).all fun p => if p.1 = '0' then p.2.isDigit else p.1 = p.2

def pairAt (cs : List Char) (place : Nat) : Nat := Nat.ofDigitChars 10 ((cs.drop place).take 2) 0

def daysOfMonth (year month : Nat) : Nat :=
  if month = 2 then if year % 4 = 0 ∧ (year % 100 ≠ 0 ∨ year % 400 = 0) then 29 else 28
  else if [4, 6, 9, 11].contains month then 30 else 31

def isDate (cs : List Char) : Bool :=
  let year := 100 * pairAt cs 0 + pairAt cs 2
  let month := pairAt cs 5
  let day := pairAt cs 8
  hasShape "0000-00-00" cs && 1 ≤ month && month ≤ 12 && 1 ≤ day && day ≤ daysOfMonth year month

def isClock (cs : List Char) : Bool :=
  hasShape "00:00:00" (cs.take 8) && pairAt cs 0 < 24 && pairAt cs 3 < 60 && pairAt cs 6 ≤ 60 &&
    match cs.drop 8 with
    | [] => true
    | '.' :: ds => !ds.isEmpty && ds.all Char.isDigit
    | _ => false

def isOffset (cs : List Char) : Bool :=
  cs = ['Z'] || cs = ['z'] ||
    ((hasShape "+00:00" cs || hasShape "-00:00" cs) && pairAt cs 1 < 24 && pairAt cs 4 < 60)

/-- A time of the day with an optional distance from universal time. -/
def isTime (cs : List Char) : Bool :=
  let clock := cs.takeWhile fun c => c.isDigit || c = ':' || c = '.'
  let offset := cs.drop clock.length
  isClock clock && (offset.isEmpty || isOffset offset)

def isDateTime (cs : List Char) : Bool :=
  isDate cs || isClock cs ||
    (isDate (cs.take 10) && ((cs.drop 10).head?.any fun c => c = 'T' || c = 't' || c = ' ') &&
      isTime (cs.drop 11))

def word? (cs : List Char) : Option Value :=
  if cs = "true".toList then some (.bool true)
  else if cs = "false".toList then some (.bool false)
  else if isDateTime cs then some (.string (String.ofList cs))
  else (integer? cs).or (float? cs)

end CellularAutomaton.Document.Toml
