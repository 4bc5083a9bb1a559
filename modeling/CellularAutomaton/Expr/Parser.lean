import CellularAutomaton.Expr.Token

/-!
# Parsing expressions

The parser reads one token after another. All it remembers is what is still open: for each
parenthesis that has not been closed, and outside of them all, at most one sum and one product that
wait for their right operand, and the minus signs before the operand to come. Products bind tighter
than sums, both associate to the left, and a minus sign binds tightest.
-/
namespace CellularAutomaton

namespace Expr

/-- The negation of an expression. A literal is negated itself, if it has an opposite. -/
def negate : Expr → Except ExprError Expr
  | literal n =>
    if n = Int64.minValue then
      .error (.invalidNumber (String.ofList ('-' :: Numeral.integer n.toInt)))
    else .ok (literal (-n))
  | e => .ok (neg e)

def negations : Nat → Expr → Except ExprError Expr
  | 0, e => .ok e
  | n + 1, e => do negations n (← e.negate)

end Expr

abbrev Waiting := Option (Expr × Operator)

/-- The expression once the right operand `e` is known. -/
def Waiting.close : Waiting → Expr → Expr
  | none, e => e
  | some (l, op), e => .binary op l e

/-- What waits for an operand between two parentheses. -/
structure Pending where
  sum : Waiting
  product : Waiting
  minuses : Nat

namespace Pending

def start : Pending := ⟨none, none, 0⟩

/-- The product that the operand `e` ends. -/
def closeProduct (p : Pending) (e : Expr) : Except ExprError Expr :=
  (Expr.negations p.minuses e).map p.product.close

end Pending

/-- What the tokens so far amount to. -/
inductive ParserState
  /-- An operand has to follow. -/
  | operand (pending : Pending) (outer : List Pending)
  /-- A product is complete; `sum` waits for it unless the product goes on. -/
  | operator (sum : Waiting) (product : Expr) (outer : List Pending)

namespace ParserState

def start : ParserState := operand .start []

/-- Reads one token, if it may stand here. -/
def next : ParserState → Token → Except ExprError ParserState
  | operand p outer, .number n => (p.closeProduct (.literal n)).map (operator p.sum · outer)
  | operand p outer, .var => (p.closeProduct .var).map (operator p.sum · outer)
  | operand p outer, .op .sub => .ok (operand { p with minuses := p.minuses + 1 } outer)
  | operand p outer, .leftParen => .ok (operand .start (p :: outer))
  | operand _ _, t => .error (.unexpectedToken t)
  | operator sum e outer, .op .mul => .ok (operand ⟨sum, some (e, .mul), 0⟩ outer)
  | operator sum e outer, .op .div => .ok (operand ⟨sum, some (e, .div), 0⟩ outer)
  | operator sum e outer, .op .add => .ok (operand ⟨some (sum.close e, .add), none, 0⟩ outer)
  | operator sum e outer, .op .sub => .ok (operand ⟨some (sum.close e, .sub), none, 0⟩ outer)
  | operator sum e (p :: outer), .rightParen =>
    (p.closeProduct (sum.close e)).map (operator p.sum · outer)
  | operator _ _ _, t => .error (.unexpectedToken t)

def result? : ParserState → Option Expr
  | operator sum e [] => some (sum.close e)
  | _ => none

def run : ParserState → List Token → Except ExprError ParserState
  | s, [] => .ok s
  | s, t :: ts => do (← s.next t).run ts

end ParserState

namespace Expr

/-- The expression that a scanned text stands for. The first token that may not stand where it does
is reported before anything behind it, a piece that is no token before the missing rest of the
expression. -/
def ofScan (s : Scan) : Except ExprError Expr :=
  match ParserState.start.run s.tokens, s.stop with
  | .error e, _ => .error e
  | .ok _, some e => .error e
  | .ok q, none =>
    match q.result? with
    | some e => .ok e
    | none => .error .unexpectedEnd

def ofChars (cs : List Char) : Except ExprError Expr := ofScan (Scan.ofChars cs)

def parse (text : String) : Except ExprError Expr := ofChars text.toList

end Expr

end CellularAutomaton
