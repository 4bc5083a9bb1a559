import CellularAutomaton.Document.Yaml.Token

/-!
# From tokens to events

The events of a document list its nodes in the order of the text, with marks where a collection
starts and ends. A node that is left out is an empty plain scalar.
-/
namespace CellularAutomaton.Document.Yaml

structure Properties where
  anchor : Option (List Char)
  tag : Option Tag
  deriving DecidableEq

inductive Event
  | alias (name : List Char)
  | scalar (properties : Properties) (style : Style) (text : List Char)
  | sequenceStart (properties : Properties)
  | sequenceEnd
  | mappingStart (properties : Properties)
  | mappingEnd
  deriving DecidableEq

def Properties.none : Properties := ⟨.none, .none⟩

def Event.empty : Event := .scalar .none .plain []

/-- What the handles of tags stand for. -/
abbrev Handles := List (List Char × Tag)

/-- The tag that a handle and what follows it stand for. -/
def Handles.tag? (hs : Handles) (handle : List Char) (suffix : Tag) : Option Tag :=
  if handle.isEmpty then some suffix else (hs.lookup handle).map (· ++ suffix)

/-- Reads an anchor and a tag in any order. -/
def Properties.read? (hs : Handles) : List Token → Option (Properties × List Token)
  | .anchor a :: .tag handle suffix :: ts => do
    return (⟨some a, some (← hs.tag? handle suffix)⟩, ts)
  | .tag handle suffix :: .anchor a :: ts => do
    return (⟨some a, some (← hs.tag? handle suffix)⟩, ts)
  | .anchor a :: ts => some (⟨some a, .none⟩, ts)
  | .tag handle suffix :: ts => do return (⟨.none, some (← hs.tag? handle suffix)⟩, ts)
  | ts => some (.none, ts)

inductive Context
  /-- An item of a sequence in block context, or the whole document. -/
  | item
  /-- A key or a value of a mapping in block context; here the items of a sequence need not be
  indented. -/
  | entry
  | flow
  deriving DecidableEq

def isNext (expected : List Token) (ts : List Token) : Bool := ts.head?.any expected.contains

mutual

def node? (hs : Handles) : Nat → Context → List Token → Option (List Event × List Token)
  | 0, _, _ => none
  | _ + 1, _, .alias name :: ts => some ([.alias name], ts)
  | fuel + 1, context, ts => do
    let (p, ts) ← Properties.read? hs ts
    match ts with
    | .blockEntry :: _ =>
      if context = .entry then
        (dashes? hs fuel ts).map fun r => (.sequenceStart p :: r.1, r.2)
      else if p = .none then none
      else some ([.scalar p .plain []], ts)
    | .scalar style text :: ts => some ([.scalar p style text], ts)
    | .flowSequenceStart :: ts =>
      (flowItems? hs fuel true ts).map fun r => (.sequenceStart p :: r.1, r.2)
    | .flowMappingStart :: ts =>
      (flowEntries? hs fuel true ts).map fun r => (.mappingStart p :: r.1, r.2)
    | _ =>
      if context ≠ .flow ∧ isNext [.blockSequenceStart] ts then
        (items? hs fuel ts.tail).map fun r => (.sequenceStart p :: r.1, r.2)
      else if context ≠ .flow ∧ isNext [.blockMappingStart] ts then
        (entries? hs fuel ts.tail).map fun r => (.mappingStart p :: r.1, r.2)
      else if p = .none then none
      else some ([.scalar p .plain []], ts)

/-- A node that is empty if one of the given tokens comes next. -/
def nodeBefore? (hs : Handles) :
    Nat → List Token → Context → List Token → Option (List Event × List Token)
  | 0, _, _, _ => none
  | fuel + 1, ends, context, ts =>
    if isNext ends ts then some ([.empty], ts) else node? hs fuel context ts

def items? (hs : Handles) : Nat → List Token → Option (List Event × List Token)
  | 0, _ => none
  | fuel + 1, .blockEntry :: ts => do
    let (e, ts) ← nodeBefore? hs fuel [.blockEntry, .blockEnd] .item ts
    let (es, ts) ← items? hs fuel ts
    return (e ++ es, ts)
  | _ + 1, .blockEnd :: ts => some ([.sequenceEnd], ts)
  | _ + 1, _ => none

/-- The items of a sequence that is not indented. -/
def dashes? (hs : Handles) : Nat → List Token → Option (List Event × List Token)
  | 0, _ => none
  | fuel + 1, .blockEntry :: ts => do
    let (e, ts) ← nodeBefore? hs fuel [.blockEntry, .key, .value, .blockEnd] .item ts
    let (es, ts) ← dashes? hs fuel ts
    return (e ++ es, ts)
  | _ + 1, ts => some ([.sequenceEnd], ts)

def entries? (hs : Handles) : Nat → List Token → Option (List Event × List Token)
  | 0, _ => none
  | fuel + 1, .key :: ts => do
    let (k, ts) ← nodeBefore? hs fuel [.key, .value, .blockEnd] .entry ts
    let (v, ts) ← match ts with
      | .value :: ts => nodeBefore? hs fuel [.key, .value, .blockEnd] .entry ts
      | _ => some ([.empty], ts)
    let (es, ts) ← entries? hs fuel ts
    return (k ++ v ++ es, ts)
  | _ + 1, .blockEnd :: ts => some ([.mappingEnd], ts)
  | _ + 1, _ => none

/-- The items of a sequence in brackets. An item with a key is a mapping of its own; a key that is
left out takes the token behind it along. -/
def flowItems? (hs : Handles) : Nat → Bool → List Token → Option (List Event × List Token)
  | 0, _, _ => none
  | fuel + 1, first, ts =>
    if isNext [.flowSequenceEnd] ts then some ([.sequenceEnd], ts.tail)
    else if !first && !isNext [.flowEntry] ts then none
    else
      let ts := if first then ts else ts.tail
      match ts with
      | .flowSequenceEnd :: ts => some ([.sequenceEnd], ts)
      | .key :: ts => do
        let (k, ts) ←
          if isNext [.value, .flowEntry, .flowSequenceEnd] ts then some ([.empty], ts.tail)
          else node? hs fuel .flow ts
        let (v, ts) ← match ts with
          | .value :: ts => nodeBefore? hs fuel [.flowEntry, .flowSequenceEnd] .flow ts
          | _ => some ([.empty], ts)
        let (es, ts) ← flowItems? hs fuel false ts
        return (.mappingStart .none :: k ++ v ++ .mappingEnd :: es, ts)
      | _ => do
        let (e, ts) ← node? hs fuel .flow ts
        let (es, ts) ← flowItems? hs fuel false ts
        return (e ++ es, ts)

def flowEntries? (hs : Handles) : Nat → Bool → List Token → Option (List Event × List Token)
  | 0, _, _ => none
  | fuel + 1, first, ts =>
    if isNext [.flowMappingEnd] ts then some ([.mappingEnd], ts.tail)
    else if !first && !isNext [.flowEntry] ts then none
    else
      let ts := if first then ts else ts.tail
      match ts with
      | .flowMappingEnd :: ts => some ([.mappingEnd], ts)
      | .key :: ts => do
        let (k, ts) ← nodeBefore? hs fuel [.value, .flowEntry, .flowMappingEnd] .flow ts
        let (v, ts) ← match ts with
          | .value :: ts => nodeBefore? hs fuel [.flowEntry, .flowMappingEnd] .flow ts
          | _ => some ([.empty], ts)
        let (es, ts) ← flowEntries? hs fuel false ts
        return (k ++ v ++ es, ts)
      | _ => do
        let (k, ts) ← node? hs fuel .flow ts
        let (es, ts) ← flowEntries? hs fuel false ts
        return (k ++ .empty :: es, ts)

end

/-- The handles that are known without a directive. -/
def Handles.standard : Handles :=
  [(['!'], Tag.ofString "!"), (['!', '!'], Tag.ofString "tag:yaml.org,2002:")]

/-- Reads directives up to the mark of the start of a document. The version may be given once, and
each handle once. -/
def directives? (hasVersion : Bool) (hs : Handles) : List Token → Option (Handles × List Token)
  | .version major minor :: ts =>
    if !hasVersion && major = 1 && (minor = 1 || minor = 2) then directives? true hs ts else none
  | .handle name meaning :: ts =>
    if (hs.lookup name).isSome then none else directives? hasVersion (hs ++ [(name, meaning)]) ts
  | .documentStart :: ts => some (hs ++ Handles.standard, ts)
  | _ => none

def isDirective : Token → Bool
  | .version _ _ | .handle _ _ => true
  | _ => false

/-- The events of the only document of a text, none if there is no document. -/
def Event.ofTokens? (ts : List Token) : Option (List Event) := do
  let fuel := 4 * ts.length + 4
  if ts.isEmpty then return []
  let (es, rest) ←
    if isNext [.documentStart] ts || ts.head?.any isDirective then do
      let (hs, ts) ← directives? false [] ts
      if ts.isEmpty || isNext [.documentStart, .documentEnd] ts || ts.head?.any isDirective then
        some ([.empty], ts)
      else node? hs fuel .item ts
    else node? .standard fuel .item ts
  if (rest.dropWhile (· = .documentEnd)).isEmpty then return es else none

end CellularAutomaton.Document.Yaml
