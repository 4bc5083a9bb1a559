/-!
# Places in YAML texts

Lines and columns are counted from zero.
-/
namespace CellularAutomaton.Document.Yaml

def isBlank (c : Char) : Bool := c = ' ' || c = '\t'

def isBreak (c : Char) : Bool := "\n\r\u0085\u2028\u2029".toList.contains c

/-- A character of names, as those of anchors are. -/
def isNameChar (c : Char) : Bool := c.isAlphanum || c = '_' || c = '-'

def endsWord : List Char → Bool
  | [] => true
  | c :: _ => isBlank c || isBreak c

/-- The rest of a text and its place. -/
structure Cursor where
  rest : List Char
  /-- The number of bytes before it. -/
  index : Nat
  line : Nat
  column : Nat

namespace Cursor

def size (cs : List Char) : Nat := cs.foldl (fun n c => n + c.utf8Size) 0

def skip (c : Cursor) (n : Nat) : Cursor :=
  { c with rest := c.rest.drop n, index := c.index + size (c.rest.take n), column := c.column + n }

def skipWhile (c : Cursor) (p : Char → Bool) : Cursor := c.skip (c.rest.takeWhile p).length

def skipTo (c : Cursor) (rest : List Char) : Cursor := c.skip (c.rest.length - rest.length)

def start (text : List Char) : Cursor := ⟨text, 0, 0, 0⟩

/-- Skips a byte order mark at the start of a line; it takes up a column. -/
def skipMark (c : Cursor) : Cursor :=
  if c.column = 0 ∧ c.rest.head? = some '\ufeff' then c.skip 1 else c

/-- Reads the end of a line. Most of them stand for a line feed. -/
def newline? (c : Cursor) : Option (Char × Cursor) :=
  match c.rest with
  | '\r' :: '\n' :: rest => some ('\n', ⟨rest, c.index + 2, c.line + 1, 0⟩)
  | b :: rest =>
    if isBreak b then
      some (if b = '\u2028' ∨ b = '\u2029' then b else '\n',
        ⟨rest, c.index + b.utf8Size, c.line + 1, 0⟩)
    else none
  | [] => none

def skipComment (c : Cursor) : Cursor :=
  if c.rest.head? = some '#' then c.skipWhile fun ch => !isBreak ch else c

/-- What follows after blanks, a comment and the end of the line. -/
def endOfLine? (c : Cursor) : Option Cursor :=
  let c := (c.skipWhile isBlank).skipComment
  match c.newline? with
  | some (_, next) => some next
  | none => if c.rest.isEmpty then some c else none

/-- Whether a word of three times the character `mark` stands at the start of a line. -/
def atMark (c : Cursor) (mark : Char) : Bool :=
  c.column = 0 && c.rest.take 3 = [mark, mark, mark] && endsWord (c.rest.drop 3)

/-- Whether the mark of the start or the end of a document stands here. -/
def atDocumentMark (c : Cursor) : Bool := c.atMark '-' || c.atMark '.'

end Cursor

end CellularAutomaton.Document.Yaml
