import CellularAutomaton.Expr.Token
import CellularAutomaton.Numeral.Shortest

/-!
# Errors of rule files

Lines are counted from one.
-/
namespace CellularAutomaton

inductive NumberField
  | state
  | probability
  | ruleCount
  | threshold
  | neighborState
  | sourceState
  | targetState
  deriving DecidableEq

def NumberField.name : NumberField → String
  | state => "state"
  | probability => "probability"
  | ruleCount => "rule count"
  | threshold => "threshold"
  | neighborState => "neighbor state"
  | sourceState => "from state"
  | targetState => "to state"

inductive RuleFileError
  | missingLine (line : Nat)
  | malformedNumber (line : Nat) (field : NumberField) (text : String)
  | duplicateState (line : Nat) (state : State)
  | negativeProbability (line : Nat) (value : Float)
  | probabilityCount (states probabilities : Nat)
  | probabilitySum (sum tolerance : Float)
  | unrecognizedRule (line : Nat)
  | invalidExpression (line : Nat) (cause : ExprError)
  | duplicateDefault (line : Nat)
  | missingDefault
  deriving DecidableEq

namespace RuleFileError

/-- The start of a message about one line. -/
def atLine (line : Nat) : String := "Line " ++ String.ofList (Numeral.natural line) ++ ": "

def message : RuleFileError → String
  | missingLine line => atLine line ++ "the rule text ends here."
  | malformedNumber line field text =>
    atLine line ++ "malformed " ++ field.name ++ " " ++ Text.quoted text ++ "."
  | duplicateState line state =>
    atLine line ++ "state " ++ String.ofList state.print ++ " is listed twice."
  | negativeProbability line value =>
    atLine line ++ "probability " ++ String.ofList (Numeral.float value) ++
      " is not a non-negative number."
  | probabilityCount states probabilities =>
    "There are " ++ String.ofList (Numeral.natural states) ++ " states but " ++
      String.ofList (Numeral.natural probabilities) ++ " probabilities."
  | probabilitySum sum tolerance =>
    "Probabilities sum to " ++ String.ofList (Numeral.float sum) ++ ", which is not within " ++
      String.ofList (Numeral.float tolerance) ++ " of 1."
  | unrecognizedRule line => atLine line ++ "unrecognized rule syntax."
  | invalidExpression line cause => atLine line ++ "invalid default expression: " ++ cause.message
  | duplicateDefault line => atLine line ++ "there is already a default rule."
  | missingDefault => "The rules don't have a default case."

end RuleFileError

end CellularAutomaton
