import CellularAutomaton.Document.Json.Text
import CellularAutomaton.Document.Yaml.Cursor
import CellularAutomaton.Document.Yaml.Token

/-!
# Anchors, aliases, tags and directives

Each is read from its indicator on.
-/
namespace CellularAutomaton.Document.Yaml

def anchorName? (c : Cursor) : Option (List Char × Cursor) :=
  let c := c.skip 1
  let name := c.rest.takeWhile isNameChar
  let c := c.skip name.length
  if !name.isEmpty && (endsWord c.rest || c.rest.head?.any "?:,]\x7d%@`".toList.contains) then
    some (name, c)
  else none

def octet? : List Char → Option (Nat × List Char)
  | '%' :: a :: b :: cs => do return ((← Json.hexDigit? a) * 16 + (← Json.hexDigit? b), cs)
  | _ => none

/-- The number of bytes that a character has if it begins with this one. -/
def encodedLength? (byte : Nat) : Option Nat :=
  if byte < 0x80 then some 1
  else if byte < 0xC0 then none
  else if byte < 0xE0 then some 2
  else if byte < 0xF0 then some 3
  else if byte < 0xF8 then some 4
  else none

/-- So many bytes that continue a character. -/
def continuation? : Nat → List Char → Option (List UInt8 × List Char)
  | 0, cs => some ([], cs)
  | n + 1, cs => do
    let (byte, cs) ← octet? cs
    if byte < 0x80 ∨ 0xC0 ≤ byte then none
    else (continuation? n cs).map fun p => (UInt8.ofNat byte :: p.1, p.2)

/-- The bytes of one character, all of which are escaped. -/
def escapedBytes? (cs : List Char) : Option (List UInt8 × List Char) := do
  let (byte, cs) ← octet? cs
  let n ← encodedLength? byte
  (continuation? (n - 1) cs).map fun p => (UInt8.ofNat byte :: p.1, p.2)

/-- Whether a character may stand in a tag; some only may where no flow indicator is meant by
them. -/
def isTagChar (verbatim : Bool) (c : Char) : Bool :=
  isNameChar c || ";/?:@&=+$.%!~*'()".toList.contains c || (verbatim && ",[]".toList.contains c)

def tagBytes? (verbatim : Bool) : Nat → List Char → Option (Tag × List Char)
  | 0, _ => none
  | _ + 1, [] => some ([], [])
  | fuel + 1, c :: cs =>
    if !isTagChar verbatim c then some ([], c :: cs)
    else if c = '%' then do
      let (bytes, cs) ← escapedBytes? (c :: cs)
      (tagBytes? verbatim fuel cs).map fun p => (bytes ++ p.1, p.2)
    else (tagBytes? verbatim fuel cs).map fun p => (UInt8.ofNat c.toNat :: p.1, p.2)

/-- Reads a part of a tag up to a byte of zero, after the text `head`, if there is anything at
all. -/
def tagPart? (verbatim : Bool) (head : List Char) (c : Cursor) : Option (Tag × Cursor) := do
  let (bytes, rest) ← tagBytes? verbatim (c.rest.length + 1) c.rest
  if head.isEmpty && rest.length = c.rest.length then none
  else return ((Tag.ofString (String.ofList head.tail) ++ bytes).takeWhile (· ≠ 0), c.skipTo rest)

/-- Reads an exclamation mark, name characters, and a second mark if there is one. -/
def tagHandle? (c : Cursor) : Option (List Char × Cursor) :=
  match c.rest with
  | '!' :: cs =>
    let name := cs.takeWhile isNameChar
    let closing := if (cs.drop name.length).head? = some '!' then ['!'] else []
    let handle := '!' :: name ++ closing
    some (handle, c.skip handle.length)
  | _ => none

def isClosed (handle : List Char) : Bool := 1 < handle.length && handle.getLast? = some '!'

/-- Reads a tag without looking at what follows. A lone exclamation mark is a tag by itself. -/
def openTag? (c : Cursor) : Option (Token × Cursor) := do
  match c.rest with
  | _ :: '<' :: _ =>
    let (suffix, c) ← tagPart? true [] (c.skip 2)
    if c.rest.head? = some '>' then return (.tag [] suffix, c.skip 1) else none
  | _ =>
    let (handle, c) ← tagHandle? c
    if isClosed handle then
      let (suffix, c) ← tagPart? false [] c
      return (.tag handle suffix, c)
    else
      let (suffix, c) ← tagPart? false handle c
      return (if suffix.isEmpty then .tag [] (Tag.ofString "!") else .tag ['!'] suffix, c)

/-- Reads a tag. A blank, the end of a line, or in flow context a comma has to follow. -/
def tag? (flow : Bool) (c : Cursor) : Option (Token × Cursor) := do
  let (t, c) ← openTag? c
  if endsWord c.rest || (flow && c.rest.head? = some ',') then return (t, c) else none

def versionPart? (c : Cursor) : Option (Nat × Cursor) :=
  let digits := c.rest.takeWhile Char.isDigit
  if digits.isEmpty ∨ 9 < digits.length then none
  else some (Nat.ofDigitChars 10 digits 0, c.skip digits.length)

def version? (c : Cursor) : Option (Token × Cursor) := do
  let (major, c) ← versionPart? c
  if c.rest.head? ≠ some '.' then none
  else
    let (minor, c) ← versionPart? (c.skip 1)
    return (.version major minor, c)

def handle? (c : Cursor) : Option (Token × Cursor) := do
  let (handle, c) ← tagHandle? c
  if (handle ≠ ['!'] && !isClosed handle) || !(c.rest.head?.any isBlank) then none
  else
    let (meaning, c) ← tagPart? true [] (c.skipWhile isBlank)
    if endsWord c.rest then return (.handle handle meaning, c) else none

/-- Reads a directive with the end of its line. -/
def directive? (c : Cursor) : Option (Token × Cursor) := do
  let c := c.skip 1
  let name := c.rest.takeWhile isNameChar
  let c := c.skip name.length
  if !endsWord c.rest then none
  else
    let c := c.skipWhile isBlank
    let (t, c) ← if name = "YAML".toList then version? c
      else if name = "TAG".toList then handle? c else none
    return (t, ← c.endOfLine?)

end CellularAutomaton.Document.Yaml
