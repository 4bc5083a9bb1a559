import CellularAutomaton.Expr.Token

/-!
# Printing expressions

Every binary operation is put into parentheses, so that the text reads back as the same tree.
-/
namespace CellularAutomaton.Expr

def print : Expr → List Char
  | literal n => Numeral.integer n.toInt
  | var => ['x']
  | neg e => '-' :: e.print
  | binary op l r => '(' :: l.print ++ ' ' :: op.symbol :: ' ' :: r.print ++ [')']

end CellularAutomaton.Expr
