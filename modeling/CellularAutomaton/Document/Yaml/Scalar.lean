import CellularAutomaton.Document.Json.Text
import CellularAutomaton.Numeral.Integer
import CellularAutomaton.Numeral.ReadFloat

/-!
# What YAML scalars stand for

The text of a scalar has no type. What it stands for depends on what is asked for.
-/
namespace CellularAutomaton.Document.Yaml

def isOneOf (words : List String) (cs : List Char) : Bool := words.contains (String.ofList cs)

def isNull (cs : List Char) : Bool := isOneOf ["~", "null", "Null", "NULL"] cs

def bool? (cs : List Char) : Option Bool :=
  if isOneOf ["true", "True", "TRUE"] cs then some true
  else if isOneOf ["false", "False", "FALSE"] cs then some false
  else none

def radix? (base : Nat) (cs : List Char) : Option Nat := do
  let ds ← cs.mapM Json.hexDigit?
  if ds.isEmpty || ds.any (base ≤ ·) then none else some (ds.foldl (fun n d => n * base + d) 0)

/-- An integer without a sign. Digits after a leading zero are no integer. -/
def unsigned? : List Char → Option Nat
  | '0' :: 'x' :: ds => radix? 16 ds
  | '0' :: 'o' :: ds => radix? 8 ds
  | '0' :: 'b' :: ds => radix? 2 ds
  | ds => if 1 < ds.length ∧ ds.head? = some '0' then none else Numeral.ofDigits? ds

/-- An integer that no minus may stand before. -/
def natural? : List Char → Option Nat
  | '+' :: ds => unsigned? ds
  | ds => unsigned? ds

def integer? : List Char → Option Int
  | '-' :: ds => (unsigned? ds).map fun n => -(n : Int)
  | ds => (natural? ds).map fun n => (n : Int)

def real? (cs : List Char) : Option Float :=
  if isOneOf [".inf", ".Inf", ".INF", "+.inf", "+.Inf", "+.INF"] cs then some Numeral.infinity
  else if isOneOf ["-.inf", "-.Inf", "-.INF"] cs then some (-Numeral.infinity)
  else if isOneOf [".nan", ".NaN", ".NAN"] cs then some Numeral.notANumber
  else (Numeral.readFloat? cs).bind fun x => if x.isFinite then some x else none

end CellularAutomaton.Document.Yaml
