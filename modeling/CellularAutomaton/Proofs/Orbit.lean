import CellularAutomaton.Proofs.GlobalMap
import CellularAutomaton.World.Run
import Mathlib

/-!
# The orbit of a grid

The generations after a grid are the iterates of the global map, as far as they are defined. An
orbit comes to rest at a grid that goes nowhere else, because the map leaves it as it is or is not
defined there. Up to the first such grid all generations are different, so that there are not more
of them than there are grids.
-/

namespace CellularAutomaton

variable {w h : ℕ}

namespace RuleSet

variable (r : RuleSet) (strict : Bool) (g : Grid State w h)

/-- The generation `n` steps after `g`, if there is one. -/
def orbit : ℕ → Option (Grid State w h)
  | 0 => some g
  | n + 1 => (orbit n).bind (r.globalMap strict)

/-- The generation `k` goes to itself. -/
def Still (k : ℕ) : Prop := ∃ c, r.orbit strict g k = some c ∧ r.orbit strict g (k + 1) = some c

/-- The generation `j` is the last one, as some cell has no next state. -/
def Fails (j : ℕ) : Prop := (∃ c, r.orbit strict g j = some c) ∧ r.orbit strict g (j + 1) = none

def Rests (n : ℕ) : Prop := r.Still strict g n ∨ r.Fails strict g n

variable {r strict g}

theorem orbit_succ {n : ℕ} {c : Grid State w h} (here : r.orbit strict g n = some c) :
    r.orbit strict g (n + 1) = r.globalMap strict c := by rw [orbit, here, Option.bind_some]

theorem exists_orbit_of_le {m n : ℕ} (le : m ≤ n) {c : Grid State w h}
    (here : r.orbit strict g n = some c) :
    ∃ c, r.orbit strict g m = some c := by
  induction le generalizing c with
  | refl => exact ⟨c, here⟩
  | step _ ih =>
    obtain ⟨d, before, -⟩ := Option.bind_eq_some_iff.1 here
    exact ih before

theorem Fails.le_of_orbit {j n : ℕ} (fails : r.Fails strict g j) {c : Grid State w h}
    (here : r.orbit strict g n = some c) : n ≤ j := by
  by_contra later
  obtain ⟨d, defined⟩ := exists_orbit_of_le (Nat.lt_of_not_ge later) here
  rw [fails.2] at defined
  cases defined

theorem Fails.unique {i j : ℕ} (first : r.Fails strict g i)
    (second : r.Fails strict g j) : i = j := by
  obtain ⟨c, atFirst⟩ := first.1
  obtain ⟨d, atSecond⟩ := second.1
  exact Nat.le_antisymm (second.le_of_orbit atFirst) (first.le_of_orbit atSecond)

theorem orbit_add {i j : ℕ} (same : r.orbit strict g i = r.orbit strict g j) (n : ℕ) :
    r.orbit strict g (i + n) = r.orbit strict g (j + n) := by
  induction n with
  | zero => exact same
  | succ n ih => rw [← Nat.add_assoc, ← Nat.add_assoc, orbit, orbit, ih]

theorem Rests.of_orbit_eq {i j : ℕ} (rests : r.Rests strict g j)
    (same : r.orbit strict g i = r.orbit strict g j) : r.Rests strict g i := by
  have next := orbit_add same 1
  rcases rests with ⟨c, here, there⟩ | ⟨⟨c, here⟩, nowhere⟩
  · exact .inl ⟨c, same.trans here, next.trans there⟩
  · exact .inr ⟨⟨c, same.trans here⟩, next.trans nowhere⟩

theorem Rests.exists_orbit {n : ℕ} (rests : r.Rests strict g n) :
    ∃ c, r.orbit strict g n = some c := by
  rcases rests with ⟨c, here, -⟩ | ⟨here, -⟩
  · exact ⟨c, here⟩
  · exact here

/-- Before an orbit comes to rest no grid comes back: otherwise it would have come to rest a period
ago. -/
theorem orbit_ne_of_lt {n : ℕ} (rests : r.Rests strict g n)
    (first : ∀ k < n, ¬r.Rests strict g k) {i j : ℕ} (lt : i < j) (bound : j ≤ n) :
    r.orbit strict g i ≠ r.orbit strict g j := by
  intro same
  have back := orbit_add same (n - j)
  rw [Nat.add_sub_cancel' bound] at back
  exact first (i + (n - j)) (by omega) (rests.of_orbit_eq back)

end RuleSet

/-! ## The number of grids -/

theorem Grid.card_le_generations {ι : Type*} [Fintype ι] (f : ι → Grid State w h)
    (distinct : Function.Injective f) : Fintype.card ι ≤ World.generations w h := by
  let code : ι → Fin w × Fin h → Fin (2 ^ 32) := fun i p => ((f i).get p.1 p.2).toBitVec.toFin
  have injective : Function.Injective code := by
    intro i j same
    apply distinct
    ext x y
    have bits := congrFun same (x, y)
    exact Int32.toBitVec_inj.1 (BitVec.toFin_inj.1 bits)
  calc
    _ ≤ Fintype.card (Fin w × Fin h → Fin (2 ^ 32)) := Fintype.card_le_of_injective code injective
    _ = (2 ^ 32) ^ (w * h) := by simp
    _ = World.generations w h := by
      rw [← Nat.pow_mul, ← Nat.mul_assoc]
      rfl

namespace RuleSet

variable {r : RuleSet} {strict : Bool} {g : Grid State w h}

theorem exists_rests_lt {n : ℕ} (rests : r.Rests strict g n) :
    ∃ k < World.generations w h, r.Rests strict g k := by
  classical
  have some : ∃ n, r.Rests strict g n := ⟨n, rests⟩
  have here := Nat.find_spec some
  have first : ∀ k < Nat.find some, ¬r.Rests strict g k := fun k => Nat.find_min some
  obtain ⟨c, last⟩ := here.exists_orbit
  have defined : ∀ i : Fin (Nat.find some + 1), ∃ c, r.orbit strict g i = .some c :=
    fun i => exists_orbit_of_le (Nat.le_of_lt_succ i.isLt) last
  choose generation isGeneration using defined
  have distinct : Function.Injective generation := by
    intro i j same
    have back : r.orbit strict g i = r.orbit strict g j := by rw [isGeneration, isGeneration, same]
    rcases lt_trichotomy i.val j.val with lt | eq | gt
    · exact absurd back (orbit_ne_of_lt here first lt (Nat.le_of_lt_succ j.isLt))
    · exact Fin.ext eq
    · exact absurd back.symm (orbit_ne_of_lt here first gt (Nat.le_of_lt_succ i.isLt))
  have bound := Grid.card_le_generations generation distinct
  rw [Fintype.card_fin] at bound
  exact ⟨Nat.find some, bound, here⟩

end RuleSet

end CellularAutomaton
