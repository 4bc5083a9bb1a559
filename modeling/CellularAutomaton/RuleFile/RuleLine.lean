import CellularAutomaton.Expr.Parser
import CellularAutomaton.Rule.Basic
import CellularAutomaton.RuleFile.Error
import CellularAutomaton.Text.Fields

/-!
# Rule lines

A rule line is one of

* `from -> to`;
* `min t: n -> to`, `max t: n -> to` or `is t: n -> to`, about the number of neighbors in the state
  `n`;
* `min t: n: from -> to` and so on, about cells in the state `from` only;
* `default -> expression`.

Blanks are allowed around every number and around the arrow.
-/
namespace CellularAutomaton

inductive RuleLine
  | simple (rule : SimpleRule)
  | neighbor (rule : NeighborRule)
  | fallback (e : Expr)
  deriving DecidableEq

/-- Reads a number of the line `line`, without the blanks around it. -/
def readField (read? : List Char → Option α) (field : NumberField) (line : Nat) (cs : List Char) :
    Except RuleFileError α :=
  match read? (Text.trim cs) with
  | some a => .ok a
  | none => .error (.malformedNumber line field (String.ofList (Text.trim cs)))

def readState (field : NumberField) (line : Nat) (cs : List Char) : Except RuleFileError State :=
  readField Numeral.readInt32? field line cs

def Comparison.keyword : Comparison → List Char
  | atLeast => ['m', 'i', 'n']
  | atMost => ['m', 'a', 'x']
  | exactly => ['i', 's']

def Comparison.ofKeyword? (cs : List Char) : Option Comparison :=
  [atLeast, atMost, exactly].find? fun c => c.keyword = cs

namespace RuleLine

def isFallback : RuleLine → Bool
  | fallback _ => true
  | _ => false

def defaultKeyword : List Char := ['d', 'e', 'f', 'a', 'u', 'l', 't']

def readNeighbor (line : Nat) (comparison : Comparison) (threshold neighbor : List Char)
    (source : Option (List Char)) (target : List Char) : Except RuleFileError RuleLine := do
  let threshold ← readField Numeral.readUInt32? .threshold line threshold
  let neighbor ← readState .neighborState line neighbor
  let source ← match source with
    | some cs => (readState .sourceState line cs).map some
    | none => .ok none
  let target ← readState .targetState line target
  return .neighbor ⟨comparison, threshold, neighbor, source, target⟩

def readCondition (line : Nat) (condition target : List Char) : Except RuleFileError RuleLine :=
  match Text.cutWhere Text.isBlank condition with
  | none => .error (.unrecognizedRule line)
  | some (keyword, fields) =>
    match Comparison.ofKeyword? keyword, fields.splitOn ':' with
    | some c, [t, n] => readNeighbor line c t n none target
    | some c, [t, n, s] => readNeighbor line c t n (some s) target
    | _, _ => .error (.unrecognizedRule line)

/-- Reads a rule from what stands before and after the arrow. -/
def readSides (line : Nat) (source target : List Char) : Except RuleFileError RuleLine :=
  if source = defaultKeyword then
    match Expr.ofChars target with
    | .ok e => .ok (.fallback e)
    | .error e => .error (.invalidExpression line e)
  else match Numeral.readInt32? source with
    | some s => (readState .targetState line target).map fun t => .simple ⟨s, t⟩
    | none => readCondition line source target

/-- Reads a rule from the text of the line `line`, which is in lower case. -/
def read (line : Nat) (text : List Char) : Except RuleFileError RuleLine :=
  match Text.cutAtPair '-' '>' text with
  | none => .error (.unrecognizedRule line)
  | some (before, after) => readSides line (Text.trim before) (Text.trim after)

end RuleLine

end CellularAutomaton
