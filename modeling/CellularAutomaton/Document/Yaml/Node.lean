import CellularAutomaton.Document.Yaml.Event
import CellularAutomaton.Document.Yaml.Layout

/-!
# Nodes of YAML documents

Anchors are numbered. The number of an anchor is that of the names used before it, so a name that is
used again may share its number with a later anchor; an alias then stands for the last node with its
number.
-/
namespace CellularAutomaton.Document.Yaml

inductive Node
  | scalar (tag : Option Tag) (style : Style) (text : List Char)
  | sequence (tag : Option Tag) (items : List Node)
  | mapping (tag : Option Tag) (entries : List (Node × Node))
  /-- Stands for the node with the given number. -/
  | alias (number : Nat)

/-- An event with the number of its anchor, or of the anchor that it is an alias of. -/
abbrev Numbered := Event × Option Nat

def Event.anchor? : Event → Option (List Char)
  | .scalar p _ _ | .sequenceStart p | .mappingStart p => p.anchor
  | _ => none

/-- Numbers the events; `names` are the names before them with their last numbers. An alias needs an
anchor before it. -/
def Event.number? (names : List (List Char × Nat)) : List Event → Option (List Numbered)
  | [] => some []
  | .alias name :: es => do
    let n ← names.lookup name
    return (.alias name, some n) :: (← number? names es)
  | e :: es =>
    match e.anchor? with
    | some name => do
      let n := names.length
      let names := (name, n) :: names.filter (·.1 ≠ name)
      return (e, some n) :: (← number? names es)
    | none => do return (e, none) :: (← number? names es)

mutual

/-- The node that the events begin with, and the events behind it. -/
def Node.ofEvents? : Nat → List Numbered → Option (Node × List Numbered)
  | 0, _ => none
  | fuel + 1, es =>
    match es with
    | (.alias _, some n) :: es => some (.alias n, es)
    | (.scalar p style text, _) :: es => some (.scalar p.tag style text, es)
    | (.sequenceStart p, _) :: es =>
      (itemsOfEvents? fuel es).map fun r => (.sequence p.tag r.1, r.2)
    | (.mappingStart p, _) :: es =>
      (entriesOfEvents? fuel es).map fun r => (.mapping p.tag r.1, r.2)
    | _ => none

def itemsOfEvents? : Nat → List Numbered → Option (List Node × List Numbered)
  | 0, _ => none
  | _ + 1, (.sequenceEnd, _) :: es => some ([], es)
  | fuel + 1, es => do
    let (v, es) ← Node.ofEvents? fuel es
    let (vs, es) ← itemsOfEvents? fuel es
    return (v :: vs, es)

def entriesOfEvents? : Nat → List Numbered → Option (List (Node × Node) × List Numbered)
  | 0, _ => none
  | _ + 1, (.mappingEnd, _) :: es => some ([], es)
  | fuel + 1, es => do
    let (k, es) ← Node.ofEvents? fuel es
    let (v, es) ← Node.ofEvents? fuel es
    let (more, es) ← entriesOfEvents? fuel es
    return ((k, v) :: more, es)

end

/-- A document, in which a node may stand in several places. -/
structure Graph where
  root : Node
  /-- The nodes with anchors by their numbers, from the last to the first. -/
  anchored : List (Nat × Node)

def anchoredNodes (fuel : Nat) : List Numbered → List (Nat × Node)
  | [] => []
  | (e, number) :: es =>
    anchoredNodes fuel es ++
      match e.anchor?, number, Node.ofEvents? fuel ((e, number) :: es) with
      | some _, some n, some (v, _) => [(n, v)]
      | _, _, _ => []

namespace Graph

/-- Without events there is no document, which is as good as an empty one. -/
def ofEvents? (es : List Event) : Option Graph := do
  let es ← Event.number? [] (if es.isEmpty then [.empty] else es)
  let fuel := es.length + 1
  match ← Node.ofEvents? fuel es with
  | (root, []) => return ⟨root, anchoredNodes fuel es⟩
  | _ => none

def ofText? (text : String) : Option Graph := do
  ofEvents? (← Event.ofTokens? (← Token.ofText? text.toList))

def resolve? (g : Graph) : Node → Option Node
  | .alias n => g.anchored.lookup n
  | v => some v

end Graph

end CellularAutomaton.Document.Yaml
