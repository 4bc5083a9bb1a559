import CellularAutomaton.Text.Ranges
import CellularAutomaton.Text.Table.Combining
import CellularAutomaton.Text.Table.Unprintable

/-!
# Quoted text in messages

Text from an input is shown in quotes, so that every character of it can be told apart. The quote
itself, the backslash and the usual control characters have short escapes. Characters without a
glyph of their own and combining characters are shown by their code point.
-/
namespace CellularAutomaton.Text

/-- A code point in hexadecimal digits, between braces. -/
def escapedCodePoint (c : Char) : List Char :=
  ['\\', 'u', '\x7b'] ++ Nat.toDigits 16 c.toNat ++ ['\x7d']

/-- How `c` is shown between two characters `quote`. -/
def escaped (quote c : Char) : List Char :=
  if c = '\x00' then ['\\', '0']
  else if c = '\t' then ['\\', 't']
  else if c = '\r' then ['\\', 'r']
  else if c = '\n' then ['\\', 'n']
  else if c = '\\' ∨ c = quote then ['\\', c]
  else if inRanges combiningRanges c.toNat || inRanges unprintableRanges c.toNat then
    escapedCodePoint c
  else [c]

def quoted (s : String) : String :=
  String.ofList ('"' :: s.toList.flatMap (escaped '"') ++ ['"'])

/-- The character in single quotes. -/
def quotedChar (c : Char) : String :=
  String.ofList ('\'' :: escaped '\'' c ++ ['\''])

end CellularAutomaton.Text
