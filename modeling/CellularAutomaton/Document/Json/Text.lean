/-!
# Strings of JSON texts
-/
namespace CellularAutomaton.Document.Json

def hexDigit? (c : Char) : Option Nat :=
  if c.isDigit then some (c.toNat - '0'.toNat)
  else if 'a' ≤ c ∧ c ≤ 'f' then some (c.toNat - 'a'.toNat + 10)
  else if 'A' ≤ c ∧ c ≤ 'F' then some (c.toNat - 'A'.toNat + 10)
  else none

def unit? (a b c d : Char) : Option Nat := do
  return (((← hexDigit? a) * 16 + (← hexDigit? b)) * 16 + (← hexDigit? c)) * 16 + (← hexDigit? d)

def escape? : Char → Option Char
  | '"' => some '"'
  | '\\' => some '\\'
  | '/' => some '/'
  | 'b' => some '\x08'
  | 'f' => some '\x0c'
  | 'n' => some '\n'
  | 'r' => some '\r'
  | 't' => some '\t'
  | _ => none

/-- A character of a string, or one half of a surrogate pair, which only an escape can give. -/
inductive Piece
  | char (c : Char)
  | surrogate (unit : Nat)

/-- What an escape with four hexadecimal digits stands for. -/
def Piece.ofUnit (n : Nat) : Piece :=
  if 0xD800 ≤ n ∧ n < 0xE000 then .surrogate n else .char (Char.ofNat n)

/-- The pieces of a string up to the closing quote, and what stands behind it. Control characters
have to be escaped. -/
def pieces? : List Char → Option (List Piece × List Char)
  | '"' :: cs => some ([], cs)
  | '\\' :: 'u' :: a :: b :: c :: d :: cs => do
    let unit ← unit? a b c d
    (pieces? cs).map fun p => (.ofUnit unit :: p.1, p.2)
  | '\\' :: c :: cs => do
    let e ← escape? c
    (pieces? cs).map fun p => (.char e :: p.1, p.2)
  | c :: cs => if c.toNat < 0x20 then none else (pieces? cs).map fun p => (.char c :: p.1, p.2)
  | [] => none

/-- The characters of the pieces, if the halves of all surrogate pairs stand side by side. -/
def join? : List Piece → Option (List Char)
  | [] => some []
  | .char c :: ps => (join? ps).map (c :: ·)
  | .surrogate high :: .surrogate low :: ps =>
    if high < 0xDC00 ∧ 0xDC00 ≤ low then
      (join? ps).map (Char.ofNat (0x10000 + (high - 0xD800) * 0x400 + (low - 0xDC00)) :: ·)
    else none
  | _ => none

end CellularAutomaton.Document.Json
