import CellularAutomaton.Document.Value

/-!
# Tables of TOML documents

A table may be spread over a document, but only in some ways. The tree remembers how each table came
about: by a header of its own, as a part of the path of a header, or by a key with points.
-/
namespace CellularAutomaton.Document.Toml

inductive Origin
  | header
  | path
  | dotted
  deriving DecidableEq

inductive Node
  | leaf (v : Value)
  | table (origin : Origin) (entries : List (String × Node))
  /-- An array of tables, and the last of them. -/
  | tables (before : List (List (String × Node))) (last : List (String × Node))

abbrev Entries := List (String × Node)

mutual

def Node.toValue : Node → Value
  | .leaf v => v
  | .table _ es => .table (entriesToValues es)
  | .tables before last => .list (tablesToValues before ++ [.table (entriesToValues last)])

def entriesToValues : List (String × Node) → List (String × Value)
  | [] => []
  | (k, n) :: es => (k, n.toValue) :: entriesToValues es

def tablesToValues : List (List (String × Node)) → List Value
  | [] => []
  | t :: ts => .table (entriesToValues t) :: tablesToValues ts

end

namespace Entries

def replace (es : Entries) (k : String) (n : Node) : Entries :=
  es.map fun e => if e.1 = k then (k, n) else e

def add? (k : String) (n : Node) (es : Entries) : Option Entries :=
  if (es.lookup k).isSome then none else some (es ++ [(k, n)])

/-- Opens the table `k` by a header. -/
def openTable? (k : String) (es : Entries) : Option Entries :=
  match es.lookup k with
  | none => some (es ++ [(k, .table .header [])])
  | some (.table .path sub) => some (es.replace k (.table .header sub))
  | _ => none

/-- Opens the next table of the array `k` by a header. -/
def openNext? (k : String) (es : Entries) : Option Entries :=
  match es.lookup k with
  | none => some (es ++ [(k, .tables [] [])])
  | some (.tables before last) => some (es.replace k (.tables (before ++ [last]) []))
  | _ => none

/-- Enters a value under a key whose parts are `ks` and `k`. Tables that are missing on the way are
created. The table that the value goes to must have come about by such keys too, and those before it
must not have a header of their own, unless they are in an array. -/
def enter? (k : String) (v : Value) : List String → Entries → Option Entries
  | [], es => es.add? k (.leaf v)
  | part :: ks, es =>
    match es.lookup part with
    | none => do return es ++ [(part, .table .dotted (← enter? k v ks []))]
    | some (.table origin sub) =>
      if origin = .dotted ∨ (origin = .path ∧ ks ≠ []) then do
        return es.replace part (.table origin (← enter? k v ks sub))
      else none
    | some (.tables before last) =>
      if ks ≠ [] then do return es.replace part (.tables before (← enter? k v ks last)) else none
    | some (.leaf _) => none

/-- Changes the table at the path of a header. Tables that are missing on the way are created. -/
def under? (f : Entries → Option Entries) : List String → Entries → Option Entries
  | [], es => f es
  | part :: ks, es =>
    match es.lookup part with
    | none => do return es ++ [(part, .table .path (← under? f ks []))]
    | some (.table origin sub) => do return es.replace part (.table origin (← under? f ks sub))
    | some (.tables before last) => do return es.replace part (.tables before (← under? f ks last))
    | some (.leaf _) => none

end Entries

end CellularAutomaton.Document.Toml
