import CellularAutomaton.Document.Yaml.Cursor

/-!
# Block scalars

A literal scalar keeps its lines, a folded one joins them by blanks. The indentation of the first
line with text counts for all lines, unless the header gives it.
-/
namespace CellularAutomaton.Document.Yaml

/-- What becomes of the ends of lines behind the text. -/
inductive Chomping
  | strip
  | clip
  | keep
  deriving DecidableEq

structure BlockHeader where
  chomping : Chomping
  /-- The indentation inside of the parent; zero if it is not given. -/
  increment : Nat

namespace BlockHeader

def chompingAt (c : Cursor) : Option Chomping × Cursor :=
  match c.rest with
  | '-' :: _ => (some .strip, c.skip 1)
  | '+' :: _ => (some .keep, c.skip 1)
  | _ => (none, c)

def increment? (c : Cursor) : Option (Nat × Cursor) :=
  match c.rest with
  | d :: _ =>
    if d = '0' then none
    else if d.isDigit then some (d.toNat - '0'.toNat, c.skip 1)
    else some (0, c)
  | [] => some (0, c)

/-- Reads what stands behind the indicator up to the end of its line, in any order. -/
def read? (c : Cursor) : Option (BlockHeader × Cursor) := do
  let (before, c) := chompingAt c
  let (n, c) ← increment? c
  let (behind, c) := if before.isNone && n ≠ 0 then chompingAt c else (none, c)
  return (⟨(before.or behind).getD .clip, n⟩, ← c.endOfLine?)

end BlockHeader

structure EmptyLines where
  /-- The greatest column that is reached by spaces. -/
  depth : Nat
  breaks : List Char
  after : Cursor

/-- Reads lines without text, and the indentation of the line behind them. While the indentation is
zero, it is not known. -/
def emptyLines? (indent : Nat) : Nat → EmptyLines → Option EmptyLines
  | 0, e => some e
  | fuel + 1, e =>
    let c := e.after
    let spaces := (c.rest.takeWhile (· = ' ')).length
    let c := c.skip (if indent = 0 then spaces else min spaces (indent - c.column))
    let e := { e with depth := max e.depth c.column, after := c }
    if (indent = 0 ∨ c.column < indent) ∧ c.rest.head? = some '\t' then none
    else match c.newline? with
      | some (b, next) =>
        emptyLines? indent fuel { e with breaks := e.breaks ++ [b], after := next }
      | none => some e

structure BlockLines where
  text : Array Char
  /-- The end of the last line with text. -/
  last : List Char
  /-- The ends of lines without text behind it. -/
  empty : List Char
  /-- Whether the last line with text begins with a blank. -/
  indented : Bool
  after : Cursor

/-- What joins the lines so far with the next one. A folded scalar keeps the end of a line next to a
line that begins with a blank. -/
def BlockLines.joint (b : BlockLines) (literal nextIndented : Bool) : List Char :=
  if !literal && b.last = ['\n'] && !b.indented && !nextIndented then
    if b.empty.isEmpty then [' '] else b.empty
  else b.last ++ b.empty

/-- Reads lines as long as they are indented by `indent`. -/
def blockLines? (literal : Bool) (indent : Nat) : Nat → BlockLines → Option BlockLines
  | 0, b => some b
  | fuel + 1, b =>
    let c := b.after
    if c.column ≠ indent ∨ c.rest = [] then some b
    else
      let indented := c.rest.head?.any isBlank
      let line := c.rest.takeWhile fun ch => !isBreak ch
      let c := c.skip line.length
      let (last, c) := match c.newline? with
        | some (ch, next) => ([ch], next)
        | none => ([], c)
      match emptyLines? indent fuel ⟨0, [], c⟩ with
      | some e =>
        blockLines? literal indent fuel
          ⟨b.text ++ b.joint literal indented ++ line, last, e.breaks, indented, e.after⟩
      | none => none

/-- Reads a block scalar from its indicator on, inside of a parent at the column `parent`, which is
negative at the top. -/
def blockScalar? (literal : Bool) (parent : Int) (c : Cursor) : Option (List Char × Cursor) := do
  let (header, c) ← BlockHeader.read? (c.skip 1)
  let known := if header.increment = 0 then 0 else parent.toNat + header.increment
  let fuel := c.rest.length + 1
  let start ← emptyLines? known fuel ⟨0, [], c⟩
  let indent := if known = 0 then max (max start.depth (parent + 1).toNat) 1 else known
  let b ← blockLines? literal indent fuel ⟨#[], [], start.breaks, false, start.after⟩
  let ends := match header.chomping with
    | .strip => []
    | .clip => b.last
    | .keep => b.last ++ b.empty
  return (b.text.toList ++ ends, b.after)

end CellularAutomaton.Document.Yaml
