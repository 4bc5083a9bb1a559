import CellularAutomaton.Expr.Basic
import CellularAutomaton.Text.Character
import CellularAutomaton.Text.Quoted

/-!
# Tokens of expressions

A text is cut into tokens by maximal munch, from left to right, and blanks between them are skipped.
Scanning stops at the first piece that is no token; what is wrong with that piece is kept beside the
tokens before it, because an earlier error in the order of the tokens has to be reported first.
-/
namespace CellularAutomaton

inductive Token
  | number (n : Int64)
  | var
  | op (o : Operator)
  | leftParen
  | rightParen
  deriving DecidableEq

def Operator.symbol : Operator → Char
  | add => '+'
  | sub => '-'
  | mul => '*'
  | div => '/'

def Token.print : Token → List Char
  | number n => Numeral.integer n.toInt
  | var => ['x']
  | op o => [o.symbol]
  | leftParen => ['(']
  | rightParen => [')']

inductive ExprError
  | unexpectedChar (c : Char)
  | unexpectedEnd
  | unexpectedToken (t : Token)
  | unknownVariable (name : String)
  | invalidNumber (digits : String)
  deriving DecidableEq

def ExprError.message : ExprError → String
  | unexpectedChar c => "Unexpected character " ++ Text.quotedChar c ++ "."
  | unexpectedEnd => "Unexpected end of expression."
  | unexpectedToken t => "Unexpected token " ++ String.ofList t.print ++ "."
  | unknownVariable name =>
    "Unknown variable " ++ Text.quoted name ++ ". The only variable is `x`."
  | invalidNumber digits => "Invalid integer literal " ++ Text.quoted digits ++ "."

def Token.ofSymbol? : Char → Option Token
  | '+' => some (.op .add)
  | '-' => some (.op .sub)
  | '*' => some (.op .mul)
  | '/' => some (.op .div)
  | '(' => some .leftParen
  | ')' => some .rightParen
  | _ => none

/-- The tokens up to the first piece that is none, and what is wrong with that piece if there is
one. -/
structure Scan where
  tokens : List Token
  stop : Option ExprError

namespace Scan

def halt (e : ExprError) : Scan := ⟨[], some e⟩

def push (t : Token) (s : Scan) : Scan := { s with tokens := t :: s.tokens }

def isWordStart (c : Char) : Bool := Text.isAlphabetic c || c = '_'

def isWordChar (c : Char) : Bool := Text.isAlphanumeric c || c = '_'

theorem length_dropWhile_le (p : Char → Bool) (cs : List Char) :
    (cs.dropWhile p).length ≤ cs.length :=
  (List.dropWhile_suffix p).length_le

def ofChars : List Char → Scan
  | [] => ⟨[], none⟩
  | c :: cs =>
    if Text.isBlank c then ofChars cs
    else match Token.ofSymbol? c with
      | some t => (ofChars cs).push t
      | none =>
        if c.isDigit then
          let digits := c :: cs.takeWhile Char.isDigit
          let n := Nat.ofDigitChars 10 digits 0
          if n ≤ Int64.maxValue.toInt then
            (ofChars (cs.dropWhile Char.isDigit)).push (.number (Int64.ofNat n))
          else halt (.invalidNumber (String.ofList digits))
        else if isWordStart c then
          let word := c :: cs.takeWhile isWordChar
          if word = ['x'] ∨ word = ['X'] then (ofChars (cs.dropWhile isWordChar)).push .var
          else halt (.unknownVariable (String.ofList word))
        else halt (.unexpectedChar c)
termination_by cs => cs.length
decreasing_by
  all_goals simp only [List.length_cons]
  · omega
  · omega
  · have := length_dropWhile_le Char.isDigit cs; omega
  · have := length_dropWhile_le isWordChar cs; omega

end Scan

end CellularAutomaton
