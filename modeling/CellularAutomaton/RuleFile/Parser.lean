import CellularAutomaton.Numeral.ReadFloat
import CellularAutomaton.RuleFile.RuleLine
import CellularAutomaton.Text.Lowercase

/-!
# Reading rule files

A rule file has the possible states on its first line, their probabilities on the second, the number
of rules on the third, and then one rule on each line. A comment starts at `//` and ends with its
line. What follows the last rule is ignored. The first line that is wrong is reported.
-/
namespace CellularAutomaton

namespace RuleFile

/-- What a line says, without its comment and the blanks around it. A carriage return at its end is
a blank. -/
def content (line : List Char) : List Char :=
  Text.trim (((Text.cutAtPair '/' '/' line).map Prod.fst).getD line)

def lines (text : List Char) : List (List Char) := (text.splitOn '\n').map content

/-- Reads the states of the first line, none of which may be among `seen` or come twice. -/
def readStates (seen : List State) : List (List Char) → Except RuleFileError (List State)
  | [] => .ok []
  | field :: fields => do
    let s ← readState .state 1 field
    if s ∈ seen then throw (.duplicateState 1 s)
    return s :: (← readStates (s :: seen) fields)

def readProbability (field : List Char) : Except RuleFileError Float := do
  let p ← readField Numeral.readFloat? .probability 2 field
  if p.isFinite ∧ 0 ≤ p then return p else throw (.negativeProbability 2 p)

def readProbabilities : List (List Char) → Except RuleFileError (List Float)
  | [] => .ok []
  | field :: fields => do
    let p ← readProbability field
    return p :: (← readProbabilities fields)

def checkProbabilities (tolerance : Float) (states : List State) (ps : List Float) :
    Except RuleFileError Unit :=
  if ps.length ≠ states.length then .error (.probabilityCount states.length ps.length)
  else if (totalProbability ps - 1.0).abs > tolerance then
    .error (.probabilitySum (totalProbability ps) tolerance)
  else .ok ()

/-- The number of rules. The number of the last line has to be a number of 64 bits too. -/
def readCount (text : List Char) : Except RuleFileError Nat := do
  let n ← readField Numeral.readSize? .ruleCount 3 text
  if n + 3 < UInt64.size then return n
  else throw (.malformedNumber 3 .ruleCount (String.ofList (Text.trim text)))

/-- Reads that many rules, the first of them on the line `line`. Keywords are in any case. -/
def readRules (line : Nat) (hasDefault : Bool) :
    Nat → List (List Char) → Except RuleFileError (List RuleLine)
  | 0, _ => .ok []
  | _ + 1, [] => .error (.missingLine line)
  | n + 1, text :: rest => do
    let rule ← RuleLine.read line (Text.lowercase text)
    if hasDefault && rule.isFallback then throw (.duplicateDefault line)
    return rule :: (← readRules (line + 1) (hasDefault || rule.isFallback) n rest)

def simpleRules (rules : List RuleLine) : List SimpleRule :=
  rules.filterMap fun | .simple r => some r | _ => none

def neighborRules (rules : List RuleLine) : List NeighborRule :=
  rules.filterMap fun | .neighbor r => some r | _ => none

def defaultRule? (rules : List RuleLine) : Option Expr :=
  rules.findSome? fun | .fallback e => some e | _ => none

def line (n : Nat) (ls : List (List Char)) : Except RuleFileError (List Char) :=
  match ls[n - 1]? with
  | some l => .ok l
  | none => .error (.missingLine n)

def ofLines (tolerance : Float) (ls : List (List Char)) : Except RuleFileError RuleSet := do
  let states ← readStates [] ((← line 1 ls).splitOn ',')
  let probabilities ← readProbabilities ((← line 2 ls).splitOn ',')
  checkProbabilities tolerance states probabilities
  let count ← readCount (← line 3 ls)
  let rules ← readRules 4 false count (ls.drop 3)
  match defaultRule? rules with
  | some e => return ⟨states, probabilities, simpleRules rules, neighborRules rules, e⟩
  | none => throw .missingDefault

end RuleFile

namespace RuleSet

/-- How far the probabilities may sum from one if nothing else is said. It is loose, so that
probabilities like `0.33,0.33,0.33` are accepted. -/
def defaultTolerance : Float := 0.1

/-- Reads the text of a rule file whose probabilities sum to one within the tolerance. -/
def parse (tolerance : Float) (text : String) : Except RuleFileError RuleSet :=
  RuleFile.ofLines tolerance (RuleFile.lines text.toList)

end RuleSet

end CellularAutomaton
