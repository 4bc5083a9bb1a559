import CellularAutomaton.Document.Toml.Text
import CellularAutomaton.Document.Yaml.Gap

/-!
# Quoted scalars

In single quotes a quote is written twice, and there are no other escapes. In double quotes a
backslash starts an escape, which may also be that of the end of a line.
-/
namespace CellularAutomaton.Document.Yaml

def escape? : List Char → Option (Char × List Char)
  | '0' :: cs => some ('\x00', cs)
  | 'a' :: cs => some ('\x07', cs)
  | 'v' :: cs => some ('\x0b', cs)
  | 'e' :: cs => some ('\x1b', cs)
  | ' ' :: cs => some (' ', cs)
  | '\t' :: cs => some ('\t', cs)
  | '/' :: cs => some ('/', cs)
  | 'N' :: cs => some ('\u0085', cs)
  | '_' :: cs => some ('\u00a0', cs)
  | 'L' :: cs => some ('\u2028', cs)
  | 'P' :: cs => some ('\u2029', cs)
  | 'x' :: a :: b :: cs => do return (← Toml.codePoint? (← Json.unit? '0' '0' a b), cs)
  | cs => Toml.escape? cs

/-- The next word of a scalar in quotes, which may be empty, and whether the end of a line is
escaped behind it. -/
def quotedWord? (single : Bool) : Nat → Cursor → Option (List Char × Bool × Cursor)
  | 0, _ => none
  | fuel + 1, c =>
    match c.rest with
    | [] => some ([], false, c)
    | ch :: rest =>
      if endsWord [ch] then some ([], false, c)
      else if single && ch = '\'' && rest.head? = some '\'' then
        (quotedWord? single fuel (c.skip 2)).map fun p => ('\'' :: p.1, p.2)
      else if ch = (if single then '\'' else '"') then some ([], false, c)
      else if !single && ch = '\\' then
        match (c.skip 1).newline? with
        | some (_, next) => some ([], true, next)
        | none => do
          let (e, rest) ← escape? rest
          (quotedWord? single fuel (c.skipTo rest)).map fun p => (e :: p.1, p.2)
      else (quotedWord? single fuel (c.skip 1)).map fun p => (ch :: p.1, p.2)

/-- Reads on up to the closing quote. No mark of a document may stand before it. -/
def quotedFrom? (single : Bool) : Nat → Cursor → Option (List Char × Cursor)
  | 0, _ => none
  | fuel + 1, c =>
    if c.atDocumentMark || c.rest.isEmpty then none
    else do
      let (word, escaped, c) ← quotedWord? single (fuel + 1) c
      if !escaped && c.rest.head? = some (if single then '\'' else '"') then return (word, c.skip 1)
      let (gap, c) ← Gap.read? 0 fuel (if escaped then Gap.escaped else Gap.none) c
      let (text, c) ← quotedFrom? single fuel c
      return (word ++ gap.text ++ text, c)

/-- Reads a scalar that starts with a quote. -/
def quoted? (single : Bool) (c : Cursor) : Option (List Char × Cursor) :=
  quotedFrom? single (c.rest.length + 1) (c.skip 1)

end CellularAutomaton.Document.Yaml
