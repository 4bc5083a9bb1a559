import CellularAutomaton.Document.Yaml.Block
import CellularAutomaton.Document.Yaml.Plain
import CellularAutomaton.Document.Yaml.Property
import CellularAutomaton.Document.Yaml.Quoted

/-!
# From texts to tokens

Indentation opens and closes collections in block context, and brackets do so in flow context. A key
in front of a colon is only known as a key when the colon is reached; the token that marks it is put
in front of it then. Such a simple key has to stand on the line of its colon, and not more than 1024
bytes before it.
-/
namespace CellularAutomaton.Document.Yaml

/-- A place where a simple key may begin. -/
structure SimpleKey where
  /-- The number of tokens before it. -/
  token : Nat
  /-- Whether nothing else than a key can stand there. -/
  required : Bool
  index : Nat
  line : Nat
  column : Nat

/-- The tokens so far, and all that the next ones depend on. -/
structure Layout where
  cursor : Cursor
  tokens : Array Token
  /-- The column of the innermost block collection; it is negative outside of all. -/
  indent : Int
  outerIndents : List Int
  /-- Whether a simple key may begin here. -/
  keyAllowed : Bool
  /-- The last place where a simple key may have begun, in the innermost brackets. -/
  simpleKey : Option SimpleKey
  /-- The same for each context around these brackets. -/
  outerKeys : List (Option SimpleKey)

namespace Layout

def start (text : List Char) : Layout := ⟨.start text, #[], -1, [], true, none, []⟩

def inFlow (l : Layout) : Bool := !l.outerKeys.isEmpty

def push (t : Token) (l : Layout) : Layout := { l with tokens := l.tokens.push t }

def insert (n : Nat) (t : Token) (l : Layout) : Layout :=
  { l with tokens := l.tokens.insertIdxIfInBounds n t }

def take (n : Nat) (t : Token) (l : Layout) : Layout := { l.push t with cursor := l.cursor.skip n }

/-- Skips blanks, comments, ends of lines, and byte order marks at the starts of lines. Where a
simple key may begin in block context, tabs are no blanks. -/
def skipSpace : Nat → Layout → Layout
  | 0, l => l
  | fuel + 1, l =>
    let c := l.cursor.skipMark.skipWhile fun ch =>
      ch = ' ' || (ch = '\t' && (l.inFlow || !l.keyAllowed))
    let c := c.skipComment
    match c.newline? with
    | some (_, next) =>
      skipSpace fuel { l with cursor := next, keyAllowed := l.keyAllowed || !l.inFlow }
    | none => { l with cursor := c }

/-- The place as one where a simple key may still have begun; `none` if a key is missing there. -/
def live? (c : Cursor) : Option SimpleKey → Option (Option SimpleKey)
  | none => some none
  | some k =>
    if c.line ≤ k.line ∧ c.index ≤ k.index + 1024 then some (some k)
    else if k.required then none
    else some none

def dropStaleKeys? (l : Layout) : Option Layout := do
  return { l with
    simpleKey := ← live? l.cursor l.simpleKey
    outerKeys := ← l.outerKeys.mapM (live? l.cursor) }

/-- Gives up the place of a simple key, unless a key is missing there. -/
def dropKey? (l : Layout) : Option Layout :=
  if l.simpleKey.any SimpleKey.required then none else some { l with simpleKey := none }

/-- Remembers that a simple key may begin here. -/
def saveKey? (l : Layout) : Option Layout :=
  if l.keyAllowed then do
    let c := l.cursor
    let key : SimpleKey :=
      ⟨l.tokens.size, !l.inFlow && l.indent = c.column, c.index, c.line, c.column⟩
    return { ← l.dropKey? with simpleKey := some key }
  else some l

/-- Opens a block collection at a column to the right of the innermost one, behind the first `n`
tokens. -/
def openIndent (column n : Nat) (t : Token) (l : Layout) : Layout :=
  if !l.inFlow && l.indent < column then
    { l.insert n t with indent := column, outerIndents := l.indent :: l.outerIndents }
  else l

def closeIndentsFrom (column : Int) : Int → List Int → Layout → Layout
  | indent, [], l => { l with indent, outerIndents := [] }
  | indent, outer :: outers, l =>
    if column < indent then closeIndentsFrom column outer outers (l.push .blockEnd)
    else { l with indent, outerIndents := outer :: outers }

def closeIndents (column : Int) (l : Layout) : Layout :=
  if l.inFlow then l else closeIndentsFrom column l.indent l.outerIndents l

def leaveBlocks? (l : Layout) : Option Layout := do
  return { ← (l.closeIndents (-1)).dropKey? with keyAllowed := false }

def directive? (l : Layout) : Option Layout := do
  let l ← l.leaveBlocks?
  let (t, c) ← Yaml.directive? l.cursor
  return { l.push t with cursor := c }

def documentMark? (t : Token) (l : Layout) : Option Layout := do return (← l.leaveBlocks?).take 3 t

def openFlow? (t : Token) (l : Layout) : Option Layout := do
  let l := (← l.saveKey?).take 1 t
  return { l with keyAllowed := true, simpleKey := none, outerKeys := l.simpleKey :: l.outerKeys }

def closeFlow? (t : Token) (l : Layout) : Option Layout := do
  let l := { (← l.dropKey?).take 1 t with keyAllowed := false }
  match l.outerKeys with
  | key :: outer => return { l with simpleKey := key, outerKeys := outer }
  | [] => return l

def flowEntry? (l : Layout) : Option Layout := do
  return { (← l.dropKey?).take 1 .flowEntry with keyAllowed := true }

def blockEntry? (l : Layout) : Option Layout := do
  if !l.inFlow && !l.keyAllowed then none
  else
    let l ← (l.openIndent l.cursor.column l.tokens.size .blockSequenceStart).dropKey?
    return { l.take 1 .blockEntry with keyAllowed := true }

/-- Reads the indicator of a key that need not be a simple one. -/
def key? (l : Layout) : Option Layout := do
  if !l.inFlow && !l.keyAllowed then none
  else
    let l ← (l.openIndent l.cursor.column l.tokens.size .blockMappingStart).dropKey?
    return { l.take 1 .key with keyAllowed := !l.inFlow }

def value? (l : Layout) : Option Layout :=
  match l.simpleKey with
  | some k =>
    let l := (l.insert k.token .key).openIndent k.column k.token .blockMappingStart
    some { l.take 1 .value with simpleKey := none, keyAllowed := false }
  | none =>
    if !l.inFlow && !l.keyAllowed then none
    else
      let l := l.openIndent l.cursor.column l.tokens.size .blockMappingStart
      some { l.take 1 .value with keyAllowed := !l.inFlow }

/-- Reads a token that a simple key may begin with. -/
def within? (read? : Cursor → Option (Token × Cursor)) (l : Layout) : Option Layout := do
  let l ← l.saveKey?
  let (t, c) ← read? l.cursor
  return { l.push t with cursor := c, keyAllowed := false }

def blockScalar? (literal : Bool) (l : Layout) : Option Layout := do
  let l ← l.dropKey?
  let (text, c) ← Yaml.blockScalar? literal l.indent l.cursor
  return { l.push (.scalar (if literal then .literal else .folded) text) with
    cursor := c, keyAllowed := true }

def plain? (l : Layout) : Option Layout := do
  let l ← l.saveKey?
  let p ← Yaml.plain? l.inFlow (l.indent + 1).toNat l.cursor
  return { l.push (.scalar .plain p.text) with cursor := p.after, keyAllowed := p.broken }

def token? (ch : Char) (l : Layout) : Option Layout :=
  let c := l.cursor
  let beforeBlank := endsWord (c.rest.drop 1)
  if c.column = 0 ∧ ch = '%' then l.directive?
  else if c.atMark '-' then l.documentMark? .documentStart
  else if c.atMark '.' then l.documentMark? .documentEnd
  else if ch = '[' then l.openFlow? .flowSequenceStart
  else if ch = '\x7b' then l.openFlow? .flowMappingStart
  else if ch = ']' then l.closeFlow? .flowSequenceEnd
  else if ch = '\x7d' then l.closeFlow? .flowMappingEnd
  else if ch = ',' then l.flowEntry?
  else if ch = '-' ∧ beforeBlank then l.blockEntry?
  else if ch = '?' ∧ (l.inFlow ∨ beforeBlank) then l.key?
  else if ch = ':' ∧ (l.inFlow ∨ beforeBlank) then l.value?
  else if ch = '*' then l.within? fun c => (anchorName? c).map fun p => (.alias p.1, p.2)
  else if ch = '&' then l.within? fun c => (anchorName? c).map fun p => (.anchor p.1, p.2)
  else if ch = '!' then l.within? (tag? l.inFlow)
  else if ch = '|' ∧ !l.inFlow then l.blockScalar? true
  else if ch = '>' ∧ !l.inFlow then l.blockScalar? false
  else if ch = '\'' then
    l.within? fun c => (quoted? true c).map fun p => (.scalar .singleQuoted p.1, p.2)
  else if ch = '"' then
    l.within? fun c => (quoted? false c).map fun p => (.scalar .doubleQuoted p.1, p.2)
  else if startsPlain l.inFlow c.rest then l.plain?
  else none

/-- Reads all tokens; each of them takes at least one character. -/
def tokens? : Nat → Layout → Option (List Token)
  | 0, _ => none
  | fuel + 1, l => do
    let l ← (l.skipSpace (fuel + 1)).dropStaleKeys?
    let l := l.closeIndents l.cursor.column
    match l.cursor.rest with
    | [] => return (← l.leaveBlocks?).tokens.toList
    | ch :: _ => tokens? fuel (← l.token? ch)

end Layout

/-- A character that may stand in a text. Of the control characters only the tab and ends of lines
may. -/
def isAllowed (c : Char) : Bool :=
  c = '\t' || c = '\n' || c = '\r' || (0x20 ≤ c.toNat && c.toNat ≤ 0x7E) || c.toNat = 0x85 ||
    (0xA0 ≤ c.toNat && c.toNat ≠ 0xFFFE && c.toNat ≠ 0xFFFF)

/-- The tokens of a text, if it can be cut into tokens. -/
def Token.ofText? (text : List Char) : Option (List Token) :=
  if text.all isAllowed then (Layout.start text).tokens? (text.length + 1) else none

end CellularAutomaton.Document.Yaml
