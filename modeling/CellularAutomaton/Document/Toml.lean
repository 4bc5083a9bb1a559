import CellularAutomaton.Document.Reading
import CellularAutomaton.Document.Toml.Scalar
import CellularAutomaton.Document.Toml.Text
import CellularAutomaton.Document.Toml.Tree

/-!
# TOML documents

Keys have less than 80 parts, and values stand in less than 80 brackets.
-/
namespace CellularAutomaton.Document.Toml

def isWordChar (c : Char) : Bool :=
  c.isAlphanum || c = '_' || c = '-' || c = '+' || c = '.' || c = ':'

/-- The characters of a word. A time may stand one blank behind a date. -/
def wordAt (cs : List Char) : List Char :=
  let word := cs.takeWhile isWordChar
  match cs.drop word.length with
  | ' ' :: rest =>
    let more := rest.takeWhile isWordChar
    if isDate word && isTime more then word ++ ' ' :: more else word
  | _ => word

/-- The bound of the parts of a key and of the brackets around a value. -/
def depthLimit : Nat := 80

/-- A key as its last part and the parts before it, and what follows it. -/
def splitKey? (cs : List Char) : Option ((List String × String) × List Char) := do
  let (parts, rest) ← key? (cs.length + 1) cs
  if depthLimit ≤ parts.length then none
  else parts.getLast?.map fun k => ((parts.dropLast, k), rest)

mutual

def value? : Nat → Nat → List Char → Option (Value × List Char)
  | 0, _, _ => none
  | fuel + 1, depth, cs =>
    match cs with
    | '[' :: rest =>
      if depthLimit ≤ depth + 1 then none
      else (items? fuel (depth + 1) rest).map fun p => (.list p.1, p.2)
    | '\x7b' :: rest =>
      if depthLimit ≤ depth + 1 then none
      else match skipSpace rest with
      | '\x7d' :: rest => some (.table [], rest)
      | rest => (pairs? fuel (depth + 1) [] rest).map fun p => (.table (entriesToValues p.1), p.2)
    | '"' :: _ => (string? cs).map fun p => (.string (String.ofList p.1), p.2)
    | '\'' :: _ => (string? cs).map fun p => (.string (String.ofList p.1), p.2)
    | _ =>
      let word := wordAt cs
      (word? word).map fun v => (v, cs.drop word.length)

/-- The rest of an array after its opening bracket or a comma. -/
def items? : Nat → Nat → List Char → Option (List Value × List Char)
  | 0, _, _ => none
  | fuel + 1, depth, cs =>
    match skipLines fuel cs with
    | ']' :: rest => some ([], rest)
    | rest => do
      let (v, rest) ← value? fuel depth rest
      match skipLines fuel rest with
      | ',' :: rest =>
        let (vs, rest) ← items? fuel depth rest
        return (v :: vs, rest)
      | ']' :: rest => return ([v], rest)
      | _ => none

/-- The rest of a table on one line after its opening brace or a comma, and the entries before
it. -/
def pairs? : Nat → Nat → Entries → List Char → Option (Entries × List Char)
  | 0, _, _, _ => none
  | fuel + 1, depth, es, cs => do
    let ((ks, k), rest) ← splitKey? cs
    match rest with
    | '=' :: rest =>
      let (v, rest) ← value? fuel depth (skipSpace rest)
      let es ← es.enter? k v ks
      match skipSpace rest with
      | ',' :: rest => pairs? fuel depth es rest
      | '\x7d' :: rest => return (es, rest)
      | _ => none
    | _ => none

end

/-- The document so far, and the path of the table that entries go to. -/
structure Progress where
  entries : Entries
  path : List String

def Progress.start : Progress := ⟨[], []⟩

def header? (p : Progress) (cs : List Char) : Option (Progress × List Char) := do
  let (array, cs) := match cs with
    | '[' :: rest => (true, rest)
    | _ => (false, cs)
  let ((ks, k), rest) ← splitKey? cs
  let (next, rest) ← match array, rest with
    | true, ']' :: ']' :: rest => (p.entries.under? (Entries.openNext? k) ks).map (·, rest)
    | false, ']' :: rest => (p.entries.under? (Entries.openTable? k) ks).map (·, rest)
    | _, _ => none
  return (⟨next, ks ++ [k]⟩, rest)

def entry? (p : Progress) (cs : List Char) : Option (Progress × List Char) := do
  let ((ks, k), rest) ← splitKey? cs
  match rest with
  | '=' :: rest =>
    let (v, rest) ← value? (2 * rest.length + 2) 0 (skipSpace rest)
    let next ← p.entries.under? (Entries.enter? k v ks) p.path
    return (⟨next, p.path⟩, rest)
  | _ => none

def lines? : Nat → Progress → List Char → Option Entries
  | 0, _, _ => none
  | fuel + 1, p, cs =>
    match skipLines fuel cs with
    | [] => some p.entries
    | '[' :: rest => do
      let (p, rest) ← header? p rest
      lines? fuel p (← endOfLine? rest)
    | rest => do
      let (p, rest) ← entry? p rest
      lines? fuel p (← endOfLine? rest)

/-- The table of a document, if the document is well-formed. -/
def parse? (text : String) : Option Value :=
  let cs := dropByteOrderMark text.toList
  (lines? (cs.length + 1) .start cs).map fun es => .table (entriesToValues es)

/-- No value stands for a missing one. Entries may be given by their order too, with any values
behind them, and a choice may also be the only key of a table, with an empty table or list behind
it. -/
def reading : Reading Value where
  bool? := Value.bool?
  natural? := Value.natural?
  integer? := Value.integer?
  real? := Value.real?
  optional? v := some (some v)
  entries? names
    | .table es => named? names es
    | .list vs => some (positional names vs)
    | _ => none
  choice?
    | .string s => some s
    | .table [(s, .table [])] | .table [(s, .list [])] => some s
    | _ => none

end CellularAutomaton.Document.Toml
