import CellularAutomaton.Text.Character

/-!
# Cutting lines into pieces

Texts are lists of characters here. Lists of fields come from `List.splitOn`, which never loses a
character but the separators; the functions below trim blanks and cut a text in two.
-/
namespace CellularAutomaton.Text

def trimStart (cs : List Char) : List Char := cs.dropWhile isBlank

def trimEnd (cs : List Char) : List Char := (cs.reverse.dropWhile isBlank).reverse

def trim (cs : List Char) : List Char := trimEnd (trimStart cs)

/-- What stands before and after the first place where `a` is followed directly by `b`. -/
def cutAtPair (a b : Char) : List Char → Option (List Char × List Char)
  | c :: d :: cs =>
    if c = a ∧ d = b then some ([], cs)
    else (cutAtPair a b (d :: cs)).map fun p => (c :: p.1, p.2)
  | _ => none

theorem cutAtPair_eq_some {a b : Char} {cs before after : List Char}
    (h : cutAtPair a b cs = some (before, after)) : cs = before ++ a :: b :: after := by
  induction cs generalizing before with
  | nil => simp [cutAtPair] at h
  | cons c cs ih =>
    cases cs with
    | nil => simp [cutAtPair] at h
    | cons d cs =>
      simp only [cutAtPair] at h
      split at h
      · next hcd => cases h; simp [hcd.1, hcd.2]
      · obtain ⟨p, hp, heq⟩ := Option.map_eq_some_iff.1 h
        cases heq
        simp [ih hp]

/-- What stands before and after the first character of the class `p`. -/
def cutWhere (p : Char → Bool) (cs : List Char) : Option (List Char × List Char) :=
  match cs.dropWhile fun c => !p c with
  | [] => none
  | _ :: after => some (cs.takeWhile fun c => !p c, after)

end CellularAutomaton.Text
