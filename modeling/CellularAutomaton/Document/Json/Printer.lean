import CellularAutomaton.Document.Value
import CellularAutomaton.Numeral.Shortest

/-!
# Writing JSON texts

Each item of a list and each entry of a table stands on a line of its own, indented by two blanks
for each bracket around it. Empty lists and tables stay on one line.
-/
namespace CellularAutomaton.Document.Json

/-- How a character is written within a string. -/
def escaped (c : Char) : List Char :=
  if c = '"' ∨ c = '\\' then ['\\', c]
  else if c = '\n' then ['\\', 'n']
  else if c = '\r' then ['\\', 'r']
  else if c = '\t' then ['\\', 't']
  else if c = '\x08' then ['\\', 'b']
  else if c = '\x0c' then ['\\', 'f']
  else if c.toNat < 0x20 then
    ['\\', 'u', '0', '0', Nat.digitChar (c.toNat / 16), Nat.digitChar (c.toNat % 16)]
  else [c]

def quoted (s : String) : List Char := '"' :: s.toList.flatMap escaped ++ ['"']

def newline (depth : Nat) : List Char := '\n' :: List.replicate (2 * depth) ' '

def bracketed (opening closing : Char) (depth : Nat) (items : List (List Char)) : List Char :=
  if items.isEmpty then [opening, closing]
  else
    opening :: newline (depth + 1) ++ (',' :: newline (depth + 1)).intercalate items ++
      newline depth ++ [closing]

mutual

/-- The text of a value inside of `depth` brackets. -/
def printAt (depth : Nat) : Value → List Char
  | .null | .unreadable => ['n', 'u', 'l', 'l']
  | .bool b => (toString b).toList
  | .integer n => Numeral.integer n
  | .float x => Numeral.float x
  | .string s => quoted s
  | .list vs => bracketed '[' ']' depth (printItems depth vs)
  | .table es => bracketed '\x7b' '\x7d' depth (printEntries depth es)

def printItems (depth : Nat) : List Value → List (List Char)
  | [] => []
  | v :: vs => printAt (depth + 1) v :: printItems depth vs

def printEntries (depth : Nat) : List (String × Value) → List (List Char)
  | [] => []
  | (k, v) :: es => (quoted k ++ ':' :: ' ' :: printAt (depth + 1) v) :: printEntries depth es

end

def print (v : Value) : String := String.ofList (printAt 0 v)

end CellularAutomaton.Document.Json
