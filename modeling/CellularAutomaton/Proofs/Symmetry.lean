import CellularAutomaton.Proofs.Flow
import CellularAutomaton.Proofs.GlobalMap
import CellularAutomaton.Proofs.Window

/-!
# Symmetries of the grid

A grid may be turned over to the other side, turned upside down, or its columns may become its rows,
and this over and over again. Every cell of the new grid comes from another one of the old grid,
with the same cells around it in other places. So the global map commutes with all symmetries, and
all that is counted is the same before and after.
-/

namespace CellularAutomaton

/-- A way to lay a grid of `w` columns and `h` rows onto one of `w'` columns and `h'` rows. -/
inductive Symmetry : ℕ → ℕ → ℕ → ℕ → Type
  /-- Left becomes right. -/
  | mirror (w h : ℕ) : Symmetry w h w h
  /-- The top becomes the bottom. -/
  | flip (w h : ℕ) : Symmetry w h w h
  /-- Columns become rows. -/
  | transpose (w h : ℕ) : Symmetry w h h w
  /-- One symmetry after another one. -/
  | comp {w h w' h' w'' h'' : ℕ} (first : Symmetry w h w' h') (second : Symmetry w' h' w'' h'') :
      Symmetry w h w'' h''

namespace Symmetry

variable {α : Type*} {w h w' h' : ℕ}

def source {w h w' h' : ℕ} : Symmetry w h w' h' → Fin w' × Fin h' ≃ Fin w × Fin h
  | mirror _ _ => Fin.revPerm.prodCongr (Equiv.refl _)
  | flip _ _ => (Equiv.refl _).prodCongr Fin.revPerm
  | transpose _ _ => Equiv.prodComm _ _
  | comp first second => second.source.trans first.source

/-- The slot of the old window that a slot of the new one comes from. -/
def slot {w h w' h' : ℕ} : Symmetry w h w' h' → Equiv.Perm (Fin 9)
  | mirror _ _ => Window.mirror
  | flip _ _ => Window.flip
  | transpose _ _ => Window.transpose
  | comp first second => second.slot.trans first.slot

def apply (s : Symmetry w h w' h') (g : Grid α w h) : Grid α w' h' :=
  .ofFn fun x y => g.get (s.source (x, y)).1 (s.source (x, y)).2

@[simp] theorem get_apply (s : Symmetry w h w' h') (g : Grid α w h) (x : Fin w') (y : Fin h') :
    (s.apply g).get x y = g.get (s.source (x, y)).1 (s.source (x, y)).2 := Grid.get_ofFn _ _ _

theorem apply_comp {w'' h'' : ℕ} (first : Symmetry w h w' h') (second : Symmetry w' h' w'' h'')
    (g : Grid α w h) : (first.comp second).apply g = second.apply (first.apply g) := by
  ext x y
  simp [source]

theorem dimensions (s : Symmetry w h w' h') : w' = w ∧ h' = h ∨ w' = h ∧ h' = w := by
  induction s with
  | mirror w h => exact .inl ⟨rfl, rfl⟩
  | flip w h => exact .inl ⟨rfl, rfl⟩
  | transpose w h => exact .inr ⟨rfl, rfl⟩
  | comp first second first_ih second_ih => omega

/-! ## Counting cells -/

variable (s : Symmetry w h w' h')

theorem card_filter_source (p : Fin w × Fin h → Prop) [DecidablePred p] :
    (Finset.univ.filter fun q => p (s.source q)).card = (Finset.univ.filter p).card :=
  Finset.card_equiv s.source (by simp)

theorem number_apply (g : Grid State w h) (t : State) : (s.apply g).number t = g.number t := by
  simpa only [Grid.number, get_apply] using s.card_filter_source fun p => g.get p.1 p.2 = t

theorem distance_apply (a b : Grid State w h) :
    (s.apply a).distance (s.apply b) = a.distance b := by
  rw [Grid.distance_eq_card, Grid.distance_eq_card]
  simpa only [get_apply] using s.card_filter_source fun p => a.get p.1 p.2 ≠ b.get p.1 p.2

theorem flow_apply (a b : Grid State w h) : (s.apply a).flow (s.apply b) = a.flow b := by
  funext t
  have entered := s.card_filter_source fun p => a.get p.1 p.2 ≠ t ∧ b.get p.1 p.2 = t
  have left := s.card_filter_source fun p => a.get p.1 p.2 = t ∧ b.get p.1 p.2 ≠ t
  simp only [Grid.flow, get_apply, entered, left]

/-! ## The cells around a cell -/

theorem at?_mirror (g : Grid α w h) (x y : ℤ) :
    ((mirror w h).apply g).at? x y = g.at? (w - 1 - x) y := by
  by_cases inside : 0 ≤ x ∧ x < w ∧ 0 ≤ y ∧ y < h
  · have inside' : 0 ≤ w - 1 - x ∧ w - 1 - x < w ∧ 0 ≤ y ∧ y < h := by omega
    rw [Grid.at?, Grid.at?, dif_pos inside, dif_pos inside', get_apply]
    congr 2
    apply Fin.ext
    show w - (x.toNat + 1) = (w - 1 - x).toNat
    omega
  · rw [Grid.at?, Grid.at?, dif_neg inside, dif_neg (by omega)]

theorem at?_flip (g : Grid α w h) (x y : ℤ) :
    ((flip w h).apply g).at? x y = g.at? x (h - 1 - y) := by
  by_cases inside : 0 ≤ x ∧ x < w ∧ 0 ≤ y ∧ y < h
  · have inside' : 0 ≤ x ∧ x < w ∧ 0 ≤ h - 1 - y ∧ h - 1 - y < h := by omega
    rw [Grid.at?, Grid.at?, dif_pos inside, dif_pos inside', get_apply]
    congr 2
    apply Fin.ext
    show h - (y.toNat + 1) = (h - 1 - y).toNat
    omega
  · rw [Grid.at?, Grid.at?, dif_neg inside, dif_neg (by omega)]

theorem at?_transpose (g : Grid α w h) (x y : ℤ) :
    ((transpose w h).apply g).at? x y = g.at? y x := by
  by_cases inside : 0 ≤ x ∧ x < h ∧ 0 ≤ y ∧ y < w
  · have inside' : 0 ≤ y ∧ y < w ∧ 0 ≤ x ∧ x < h := by omega
    rw [Grid.at?, Grid.at?, dif_pos inside, dif_pos inside', get_apply]
    rfl
  · rw [Grid.at?, Grid.at?, dif_neg inside, dif_neg (by omega)]

theorem slot_selfSlot (s : Symmetry w h w' h') : s.slot Window.selfSlot = Window.selfSlot := by
  induction s with
  | mirror w h => exact Window.mirror_selfSlot
  | flip w h => exact Window.flip_selfSlot
  | transpose w h => exact Window.transpose_selfSlot
  | comp first second first_ih second_ih => rw [slot, Equiv.trans_apply, second_ih, first_ih]

/-- The cells around a cell of the new grid are those around the cell that it comes from, in other
slots. -/
theorem block_apply (s : Symmetry w h w' h') (g : Grid State w h) (x : Fin w') (y : Fin h')
    (k : Fin 9) :
    ((s.apply g).block x y).get k =
      (g.block (s.source (x, y)).1 (s.source (x, y)).2).get (s.slot k) := by
  induction s generalizing k with
  | mirror w h =>
    obtain ⟨column, row⟩ := Window.mirror_val k
    simp only [Grid.block, Vector.get_ofFn, at?_mirror, slot, column, row]
    congr 1
    show (w : ℤ) - 1 - (x + (k.val % 3 : ℕ) - 1) = ((w - (x + 1) : ℕ) : ℤ) + (2 - k.val % 3 : ℕ) - 1
    omega
  | flip w h =>
    obtain ⟨column, row⟩ := Window.flip_val k
    simp only [Grid.block, Vector.get_ofFn, at?_flip, slot, column, row]
    congr 1
    show (h : ℤ) - 1 - (y + (k.val / 3 : ℕ) - 1) = ((h - (y + 1) : ℕ) : ℤ) + (2 - k.val / 3 : ℕ) - 1
    omega
  | transpose w h =>
    obtain ⟨column, row⟩ := Window.transpose_val k
    simp only [Grid.block, Vector.get_ofFn, at?_transpose, slot, column, row]
    rfl
  | comp first second first_ih second_ih =>
    rw [apply_comp, second_ih, first_ih]
    rfl

/-! ## The global map -/

variable (r : RuleSet) (strict : Bool) (g : Grid State w h)

theorem target_apply (x : Fin w') (y : Fin h') :
    r.target (s.apply g) x y = r.target g (s.source (x, y)).1 (s.source (x, y)).2 := by
  rw [RuleSet.target, RuleSet.target, get_apply]
  exact r.nextState_congr _ fun _ _ => Window.count_of_perm s.slot_selfSlot (s.block_apply g x y) _

theorem allowed?_apply (x : Fin w') (y : Fin h') :
    r.allowed? strict (s.apply g) x y =
      r.allowed? strict g (s.source (x, y)).1 (s.source (x, y)).2 := by
  rw [RuleSet.allowed?, RuleSet.allowed?, target_apply]

theorem globalMap_apply : r.globalMap strict (s.apply g) = (r.globalMap strict g).map s.apply := by
  cases defined : r.globalMap strict g with
  | some next =>
    rw [Option.map_some, RuleSet.globalMap_eq_some]
    intro x y
    rw [allowed?_apply, get_apply]
    exact RuleSet.globalMap_eq_some.1 defined _ _
  | none =>
    rw [Option.map_none, RuleSet.globalMap_eq_none]
    obtain ⟨x, y, missing⟩ := RuleSet.globalMap_eq_none.1 defined
    refine ⟨(s.source.symm (x, y)).1, (s.source.symm (x, y)).2, ?_⟩
    rw [allowed?_apply, Prod.mk.eta, s.source.apply_symm_apply]
    exact missing

end Symmetry

end CellularAutomaton
