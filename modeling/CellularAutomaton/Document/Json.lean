import CellularAutomaton.Document.Json.Number
import CellularAutomaton.Document.Json.Text
import CellularAutomaton.Document.Reading

/-!
# JSON texts

A text is cut into tokens, and a machine with a stack of open lists and tables reads them one by
one. A string with half a surrogate pair is unreadable, and so is a table with such a key.
-/
namespace CellularAutomaton.Document.Json

inductive Token
  | openList
  | closeList
  | openTable
  | closeTable
  | colon
  | comma
  | string (s : Option String)
  | scalar (v : Value)

def isSpace (c : Char) : Bool := c = ' ' || c = '\n' || c = '\t' || c = '\r'

def token? : List Char → Option (Token × List Char)
  | '[' :: cs => some (.openList, cs)
  | ']' :: cs => some (.closeList, cs)
  | '\x7b' :: cs => some (.openTable, cs)
  | '\x7d' :: cs => some (.closeTable, cs)
  | ':' :: cs => some (.colon, cs)
  | ',' :: cs => some (.comma, cs)
  | '"' :: cs => (pieces? cs).map fun p => (.string ((join? p.1).map String.ofList), p.2)
  | 'n' :: 'u' :: 'l' :: 'l' :: cs => some (.scalar .null, cs)
  | 't' :: 'r' :: 'u' :: 'e' :: cs => some (.scalar (.bool true), cs)
  | 'f' :: 'a' :: 'l' :: 's' :: 'e' :: cs => some (.scalar (.bool false), cs)
  | cs => (number? cs).map fun p => (.scalar p.1, p.2)

/-- The tokens of a text; `fuel` is a bound of their number. -/
def tokens? : Nat → List Char → Option (List Token)
  | 0, _ => none
  | fuel + 1, cs =>
    match cs.dropWhile isSpace with
    | [] => some []
    | rest => do
      let (t, rest) ← token? rest
      return t :: (← tokens? fuel rest)

/-- Entries of which the keys may be unreadable. -/
abbrev Entries := List (Option String × Value)

def Entries.toValue (es : Entries) : Value :=
  match es.mapM fun e => e.1.map (·, e.2) with
  | some es => .table es
  | none => .unreadable

/-- A list or table that is still open, its items or entries in reverse. -/
inductive Frame
  | list (items : List Value)
  | table (entries : Entries) (key : Option String)

inductive Place
  /-- A value has to follow; right after its opening bracket a list may also be closed. -/
  | value (mayClose : Bool)
  /-- A key has to follow; right after its opening brace a table may also be closed. -/
  | key (entries : Entries) (mayClose : Bool)
  | colon (entries : Entries) (key : Option String)
  /-- A value is complete. -/
  | after (v : Value)

structure Machine where
  place : Place
  stack : List Frame

def Machine.start : Machine := ⟨.value false, []⟩

def Machine.next? : Machine → Token → Option Machine
  | ⟨.value _, stack⟩, .scalar v => some ⟨.after v, stack⟩
  | ⟨.value _, stack⟩, .string s => some ⟨.after ((s.map .string).getD .unreadable), stack⟩
  | ⟨.value _, stack⟩, .openList => some ⟨.value true, .list [] :: stack⟩
  | ⟨.value _, stack⟩, .openTable => some ⟨.key [] true, stack⟩
  | ⟨.value true, .list items :: stack⟩, .closeList => some ⟨.after (.list items.reverse), stack⟩
  | ⟨.key entries _, stack⟩, .string k => some ⟨.colon entries k, stack⟩
  | ⟨.key entries true, stack⟩, .closeTable =>
    some ⟨.after (Entries.toValue entries.reverse), stack⟩
  | ⟨.colon entries k, stack⟩, .colon => some ⟨.value false, .table entries k :: stack⟩
  | ⟨.after v, .list items :: stack⟩, .comma => some ⟨.value false, .list (v :: items) :: stack⟩
  | ⟨.after v, .list items :: stack⟩, .closeList =>
    some ⟨.after (.list (v :: items).reverse), stack⟩
  | ⟨.after v, .table entries k :: stack⟩, .comma => some ⟨.key ((k, v) :: entries) false, stack⟩
  | ⟨.after v, .table entries k :: stack⟩, .closeTable =>
    some ⟨.after (Entries.toValue ((k, v) :: entries).reverse), stack⟩
  | _, _ => none

def Machine.result? : Machine → Option Value
  | ⟨.after v, []⟩ => some v
  | _ => none

def parse? (text : String) : Option Value := do
  let cs := text.toList
  let m ← (← tokens? (cs.length + 1) cs).foldlM Machine.next? Machine.start
  m.result?

/-- A null is a missing value, entries may be given by their order too, and a choice may also be the
only key of a table, with a null behind it. -/
def reading : Reading Value where
  bool? := Value.bool?
  natural? := Value.natural?
  integer? := Value.integer?
  real? := Value.real?
  optional?
    | .null => some none
    | v => some (some v)
  entries? names
    | .table es => named? names es
    | .list vs => if vs.length ≤ names.length then some (positional names vs) else none
    | _ => none
  choice?
    | .string s => some s
    | .table [(s, .null)] => some s
    | _ => none

end CellularAutomaton.Document.Json
