import CellularAutomaton.Numeral.Shortest
import CellularAutomaton.Proofs.Numeral.Integer

/-!
# The text of a double

A finite double is written with digits, a point at most among them, and a minus sign at most before
them.
-/

namespace CellularAutomaton.Numeral

theorem Decimal.mem_positional {d : Decimal} {c : Char} (inside : c ∈ d.positional) :
    c = '.' ∨ c.isDigit := by
  unfold Decimal.positional at inside
  split_ifs at inside
  · exact .inr (isDigit_of_mem_natural inside)
  · simp only [List.append_assoc, List.mem_append, List.cons_append, List.mem_cons,
      List.mem_replicate] at inside
    rcases inside with whole | rfl | ⟨-, rfl⟩ | fraction
    · exact .inr (isDigit_of_mem_natural whole)
    · exact .inl rfl
    · exact .inr rfl
    · exact .inr (isDigit_of_mem_natural fraction)

theorem isNaN_of_isFinite {x : Float} (finite : x.isFinite) : x.isNaN = false := by
  have unpacked : x.toModel.unpack.isFinite = true := finite
  show x.toModel.unpack.isNaN = false
  cases same : x.toModel.unpack with
  | notANumber =>
    rw [same] at unpacked
    cases unpacked
  | _ => rfl

theorem isInf_of_isFinite {x : Float} (finite : x.isFinite) : x.isInf = false := by
  have unpacked : x.toModel.unpack.isFinite = true := finite
  show x.toModel.unpack.isInf = false
  cases same : x.toModel.unpack with
  | infinity s =>
    rw [same] at unpacked
    cases unpacked
  | _ => rfl

def magnitudeText (x : Float) : List Char :=
  if (magnitude x).mantissa = 0 then ['0'] else (magnitude x).shortest.positional

theorem float_of_isFinite {x : Float} (finite : x.isFinite) :
    float x = (if isNegative x then ['-'] else []) ++ magnitudeText x := by
  rw [float, isNaN_of_isFinite finite, isInf_of_isFinite finite]
  rfl

theorem mem_magnitudeText {x : Float} {c : Char} (inside : c ∈ magnitudeText x) :
    c = '.' ∨ c.isDigit := by
  unfold magnitudeText at inside
  split_ifs at inside
  · rw [List.mem_singleton.1 inside]
    exact .inr rfl
  · exact Decimal.mem_positional inside

theorem mem_float {x : Float} (finite : x.isFinite) {c : Char} (inside : c ∈ float x) :
    c = '-' ∨ c = '.' ∨ c.isDigit := by
  rw [float_of_isFinite finite] at inside
  rcases List.mem_append.1 inside with sign | text
  · split_ifs at sign
    · exact .inl (List.mem_singleton.1 sign)
    · cases sign
  · exact .inr (mem_magnitudeText text)

end CellularAutomaton.Numeral
