import CellularAutomaton.State

/-!
# Expressions over the current state

The default rule computes the next state of a cell from its current one. Arithmetic is that of
64-bit integers, checked at every node: a result outside the range is an error, never a wrapped
number. Division truncates toward zero.
-/
namespace CellularAutomaton

inductive Operator
  | add
  | sub
  | mul
  | div
  deriving DecidableEq

inductive Expr
  | literal (n : Int64)
  /-- The current state. -/
  | var
  | neg (e : Expr)
  | binary (op : Operator) (l r : Expr)
  deriving DecidableEq

inductive EvalError
  | divisionByZero
  | overflow
  deriving DecidableEq

def EvalError.message : EvalError → String
  | divisionByZero => "Division by zero in the default rule."
  | overflow => "Integer overflow in the default rule."

namespace Operator

/-- The exact result; the quotient by zero does not matter, since `apply` refuses it. -/
def exact : Operator → Int → Int → Int
  | add, a, b => a + b
  | sub, a, b => a - b
  | mul, a, b => a * b
  | div, a, b => a.tdiv b

end Operator

def checked (n : Int) : Except EvalError Int64 :=
  match Numeral.int64? n with
  | some v => .ok v
  | none => .error .overflow

theorem toInt_of_checked_eq_ok {n : Int} {v : Int64} (h : checked n = .ok v) : v.toInt = n := by
  unfold checked at h
  split at h
  · next hv => cases h; exact Numeral.toInt_of_int64?_eq_some hv
  · cases h

def Operator.apply (op : Operator) (a b : Int64) : Except EvalError Int64 :=
  if op = .div ∧ b = 0 then .error .divisionByZero else checked (op.exact a.toInt b.toInt)

namespace Expr

/-- The value when the current state is `x`. Operands are evaluated from left to right. -/
def eval (x : State) : Expr → Except EvalError Int64
  | literal n => .ok n
  | var => .ok x.toInt64
  | neg e => do checked (-(← e.eval x).toInt)
  | binary op l r => do
    let a ← l.eval x
    let b ← r.eval x
    op.apply a b

/-- The value as a state; values that are no states overflow too. -/
def evalState (x : State) (e : Expr) : Except EvalError State := do
  match Numeral.int32? (← e.eval x).toInt with
  | some s => .ok s
  | none => .error .overflow

end Expr

end CellularAutomaton
