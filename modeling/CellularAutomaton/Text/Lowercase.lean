import CellularAutomaton.Text.Ranges
import CellularAutomaton.Text.Table.CaseIgnorable
import CellularAutomaton.Text.Table.Cased
import CellularAutomaton.Text.Table.Lowercase

/-!
# Lower-casing

The full Unicode mapping. Two characters need more than a table of counterparts: the capital I with
a dot becomes two characters, and a capital sigma becomes the final form at the end of a word.
-/
namespace CellularAutomaton.Text

def isCased (c : Char) : Bool := inRanges casedRanges c.toNat

def isCaseIgnorable (c : Char) : Bool := inRanges caseIgnorableRanges c.toNat

/-- What is added to a code point to reach its lower-case counterpart, if it has one; the runs
ascend. -/
def lowercaseShift : List (Nat × Nat × Nat × Int) → Nat → Option Int
  | [], _ => none
  | (first, last, stride, shift) :: rest, n =>
    if n < first then none
    else if n ≤ last ∧ (n - first) % stride = 0 then some shift
    else lowercaseShift rest n

def lowercaseChar (c : Char) : List Char :=
  if c = '\u0130' then ['i', '\u0307']
  else match lowercaseShift lowercaseRuns c.toNat with
    | some shift => [Char.ofNat (c.toNat + shift).toNat]
    | none => [c]

/-- Whether the first character that is not case-ignorable is a cased letter. -/
def casedFollows (cs : List Char) : Bool :=
  match cs.dropWhile isCaseIgnorable with
  | c :: _ => isCased c
  | [] => false

/-- Lower-cases `cs`, which stands after the characters `before`, the last of these first. -/
def lowercaseAfter (before : List Char) : List Char → List Char
  | [] => []
  | c :: cs =>
    (if c = '\u03A3' then [if casedFollows before && !casedFollows cs then '\u03C2' else '\u03C3']
      else lowercaseChar c) ++ lowercaseAfter (c :: before) cs

def lowercase (cs : List Char) : List Char := lowercaseAfter [] cs

end CellularAutomaton.Text
