import CellularAutomaton.Document.Reading
import CellularAutomaton.Document.Yaml.Node
import CellularAutomaton.Document.Yaml.Scalar

/-!
# YAML documents

An alias is read as the node that it stands for.
-/
namespace CellularAutomaton.Document.Yaml

def typeTag (type : String) : Tag := Tag.ofString ("tag:yaml.org,2002:" ++ type)

/-- The name that a tag of the document's own has behind its exclamation mark. -/
def localName? : Option Tag → Option String
  | some (33 :: bytes) => String.fromUTF8? ⟨bytes.toArray⟩
  | _ => none

/-- The text of a scalar that may be of the type: a plain one has any, a literal one only that of
its tag. -/
def Node.textOf? (type : String) : Node → Option (List Char)
  | .scalar tag style text =>
    if style = .plain ∨ (style = .literal ∧ tag = some (typeTag type)) then some text else none
  | _ => none

/-- A plain scalar is missing if it is empty or null. With the tag of nulls it has to be null, and
with any other tag it is not missing. -/
def Node.optional? : Node → Option (Option Node)
  | .scalar tag .plain text =>
    match tag with
    | none => some (if text.isEmpty || isNull text then none else some (.scalar tag .plain text))
    | some t =>
      if t ≠ typeTag "null" then some (some (.scalar tag .plain text))
      else if isNull text then some none
      else none
  | v => some (some v)

/-- A choice is a scalar, or a local tag before an empty or null plain scalar. -/
def Node.choice? : Node → Option String
  | .scalar tag style text =>
    match localName? tag with
    | some name => if style = .plain ∧ (text.isEmpty ∨ isNull text) then some name else none
    | none => some (String.ofList text)
  | _ => none

namespace Graph

def key? (g : Graph) (v : Node) : Option String := do
  match ← g.resolve? v with
  | .scalar _ _ text => return String.ofList text
  | _ => none

/-- The entries of a mapping, all of which have scalars for keys. An empty plain scalar is as good
as an empty mapping. -/
def entries? (g : Graph) (names : List String) (v : Node) : Option (List (Option Node)) := do
  match ← g.resolve? v with
  | .mapping _ es => named? names (← es.mapM fun e => do return (← g.key? e.1, e.2))
  | .scalar _ .plain [] => return names.map fun _ => none
  | _ => none

def reading (g : Graph) : Reading Node where
  bool? v := do bool? (← (← g.resolve? v).textOf? "bool")
  natural? v := do natural? (← (← g.resolve? v).textOf? "int")
  integer? v := do integer? (← (← g.resolve? v).textOf? "int")
  real? v := do real? (← (← g.resolve? v).textOf? "float")
  optional? v := do (← g.resolve? v).optional?
  entries? := g.entries?
  choice? v := do (← g.resolve? v).choice?

end Graph

end CellularAutomaton.Document.Yaml
