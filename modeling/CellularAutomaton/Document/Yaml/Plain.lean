import CellularAutomaton.Document.Yaml.Gap

/-!
# Plain scalars

A plain scalar goes on over words and gaps until an indicator, a comment, the mark of a document, or
in block context a line that is indented too little.
-/
namespace CellularAutomaton.Document.Yaml

def isFlowIndicator (c : Char) : Bool := ",[]\x7b\x7d".toList.contains c

def startsPlain (flow : Bool) : List Char → Bool
  | [] => false
  | c :: cs =>
    if c = '-' then !(cs.head?.any isBlank)
    else if c = '?' ∨ c = ':' then !flow && !endsWord cs
    else !isBlank c && !isBreak c && !isFlowIndicator c && !"#&*!|>'\"%@`".toList.contains c

/-- The next word of a plain scalar, which may be empty. In flow context no indicator may stand
directly behind a colon. -/
def plainWord? (flow : Bool) : List Char → Option (List Char)
  | [] => some []
  | c :: cs =>
    if endsWord [c] then some []
    else if flow && c = ':' && cs.head?.any (fun d => isFlowIndicator d || d = '?') then none
    else if (c = ':' && endsWord cs) || (flow && isFlowIndicator c) then some []
    else (plainWord? flow cs).map (c :: ·)

structure Plain where
  text : List Char
  /-- Whether it ends with the end of a line. -/
  broken : Bool
  after : Cursor

/-- Reads on after the given text and gap. -/
def plainFrom? (flow : Bool) (indent : Nat) : Nat → Array Char → Gap → Cursor → Option Plain
  | 0, _, _, _ => none
  | fuel + 1, text, gap, c =>
    if c.atDocumentMark || c.rest.head? = some '#' then some ⟨text.toList, gap.broken, c⟩
    else do
      let word ← plainWord? flow c.rest
      let (text, gap) := if word.isEmpty then (text, gap) else (text ++ gap.text ++ word, Gap.none)
      let c := c.skip word.length
      if c.rest.isEmpty || !endsWord c.rest then return ⟨text.toList, gap.broken, c⟩
      let (gap, c) ← Gap.read? indent fuel Gap.none c
      if !flow && c.column < indent then return ⟨text.toList, gap.broken, c⟩
      plainFrom? flow indent fuel text gap c

/-- Reads a plain scalar of which later lines start at the column `indent` or behind it. -/
def plain? (flow : Bool) (indent : Nat) (c : Cursor) : Option Plain :=
  plainFrom? flow indent (c.rest.length + 1) #[] Gap.none c

end CellularAutomaton.Document.Yaml
