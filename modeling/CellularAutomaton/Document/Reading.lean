import CellularAutomaton.Document.Value
import CellularAutomaton.Numeral.Binary64

/-!
# Reading values

The formats of documents differ in what may stand for a value of some type. A reading tells what
does, and `none` says that a value does not stand for anything of the type. Numbers are read as they
are; their range is left to the reader of an entry.
-/
namespace CellularAutomaton.Document

/-- What the values of type `α` stand for. -/
structure Reading (α : Type) where
  bool? : α → Option Bool
  /-- A whole number where no sign is allowed for. -/
  natural? : α → Option Nat
  integer? : α → Option Int
  real? : α → Option Float
  /-- The value itself, or nothing if it stands for a missing value. -/
  optional? : α → Option (Option α)
  /-- The values of the entries with the given names. -/
  entries? : List String → α → Option (List (Option α))
  /-- The name of one of several choices. -/
  choice? : α → Option String

/-- The values of the entries with the given names, if none of these comes twice. -/
def named? (names : List String) (entries : List (String × α)) : Option (List (Option α)) :=
  names.mapM fun name =>
    match entries.filter fun e => e.1 = name with
    | [] => some none
    | [e] => some (some e.2)
    | _ => none

/-- The values of entries that are given in the order of their names; the last ones may be
missing. -/
def positional (names : List String) (items : List α) : List (Option α) :=
  names.zipIdx.map fun p => items[p.2]?

namespace Value

def bool? : Value → Option Bool
  | bool b => some b
  | _ => none

def integer? : Value → Option Int
  | integer n => some n
  | _ => none

def natural? (v : Value) : Option Nat :=
  v.integer?.bind fun n => if 0 ≤ n then some n.toNat else none

def real? : Value → Option Float
  | float x => some x
  | integer n =>
    let magnitude := Numeral.nearest n.natAbs 1
    some (if n < 0 then -magnitude else magnitude)
  | _ => none

end Value

end CellularAutomaton.Document
