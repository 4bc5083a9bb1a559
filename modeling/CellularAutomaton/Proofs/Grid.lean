import CellularAutomaton.World.Step
import Mathlib

/-!
# The buffer of a grid

Every column and row has a place of its own in the buffer, and the buffer has no other places. So a
grid is determined by its cells, a write changes one cell only, and the list of all cells goes
through the columns and rows in the order of `Grid.places`. The window that the rules see is
compared with the block of cells around a place, given by whole numbers on the plane.
-/

namespace CellularAutomaton.Grid

variable {α : Type*} {w h : ℕ}

theorem place_inj {x x' : Fin w} {y y' : Fin h} : place x y = place x' y' ↔ x = x' ∧ y = y' := by
  constructor
  · intro same
    have value : y.val * w + x.val = y'.val * w + x'.val := congrArg Fin.val same
    have row : y.val = y'.val := by
      have hx := x.isLt
      have hx' := x'.isLt
      rcases lt_trichotomy y.val y'.val with lt | eq | gt
      · have := Nat.mul_le_mul_right w (Nat.succ_le_of_lt lt)
        rw [Nat.succ_mul] at this
        omega
      · exact eq
      · have := Nat.mul_le_mul_right w (Nat.succ_le_of_lt gt)
        rw [Nat.succ_mul] at this
        omega
    rw [row] at value
    exact ⟨Fin.ext (by omega), Fin.ext row⟩
  · rintro ⟨rfl, rfl⟩
    rfl

theorem width_pos (i : Fin (w * h)) : 0 < w := Nat.pos_of_mul_pos_right i.pos

def column (i : Fin (w * h)) : Fin w := ⟨i.val % w, Nat.mod_lt _ (width_pos i)⟩

def row (i : Fin (w * h)) : Fin h := ⟨i.val / w, Nat.div_lt_of_lt_mul i.isLt⟩

@[simp] theorem place_column_row (i : Fin (w * h)) : place (column i) (row i) = i := by
  apply Fin.ext
  show i.val / w * w + i.val % w = i.val
  exact Nat.div_add_mod' _ _

@[simp] theorem get_set (g : Grid α w h) (x x' : Fin w) (y y' : Fin h) (a : α) :
    (g.set x y a).get x' y' = if x = x' ∧ y = y' then a else g.get x' y' := by
  simp only [get, set, Fin.getElem_fin, Vector.getElem_set, ← Fin.ext_iff, place_inj]

@[simp] theorem get_replicate (a : α) (x : Fin w) (y : Fin h) :
    (replicate a : Grid α w h).get x y = a := by simp [get, replicate]

@[ext] theorem ext {a b : Grid α w h} (same : ∀ x y, a.get x y = b.get x y) : a = b := by
  obtain ⟨a⟩ := a
  obtain ⟨b⟩ := b
  congr 1
  ext i hi
  simpa [get] using same (column ⟨i, hi⟩) (row ⟨i, hi⟩)

def ofFn (f : Fin w → Fin h → α) : Grid α w h := ⟨Vector.ofFn fun i => f (column i) (row i)⟩

@[simp] theorem get_ofFn (f : Fin w → Fin h → α) (x : Fin w) (y : Fin h) :
    (ofFn f).get x y = f x y := by
  have back : column (place x y) = x ∧ row (place x y) = y := place_inj.1 (place_column_row _)
  simp only [get, ofFn, Fin.getElem_fin, Vector.getElem_ofFn]
  rw [back.1, back.2]

theorem range_flatMap_range (w h : ℕ) :
    ((List.range h).flatMap fun y => (List.range w).map (y * w + ·)) = List.range (h * w) := by
  induction h with
  | zero => simp
  | succ h ih => rw [List.range_succ, List.flatMap_append, ih, Nat.succ_mul, List.range_add]; simp

theorem map_place_places : (places w h).map (fun p => place p.1 p.2) = List.finRange (w * h) := by
  apply List.map_injective_iff.2 Fin.val_injective
  have rows : ∀ y : Fin h, (List.finRange w).map (fun x => (place x y).val) =
      (List.range w).map (y.val * w + ·) := by
    intro y
    rw [← List.map_coe_finRange_eq_range, List.map_map]
    rfl
  calc
    _ = (List.finRange h).flatMap fun y => (List.range w).map (y.val * w + ·) := by
      simp only [places, List.map_flatMap, List.map_map, Function.comp_def, rows]
    _ = (List.range h).flatMap fun y => (List.range w).map (y * w + ·) := by
      rw [← List.map_coe_finRange_eq_range (n := h), List.flatMap_map]
    _ = _ := by rw [range_flatMap_range, Nat.mul_comm, List.map_coe_finRange_eq_range]

@[simp] theorem mem_places (p : Fin w × Fin h) : p ∈ places w h := by simp [places]

theorem nodup_places : (places w h).Nodup := by
  apply List.Nodup.of_map fun p => place p.1 p.2
  rw [map_place_places]
  exact List.nodup_finRange _

theorem toList_eq_map_places (g : Grid α w h) :
    g.toList = (places w h).map fun p => g.get p.1 p.2 := by
  have all : g.toList = (List.finRange (w * h)).map fun i => g.buffer[i] := by
    apply List.ext_getElem <;> simp [toList]
  rw [all, ← map_place_places, List.map_map]
  rfl

theorem countP_places (p : Fin w × Fin h → Bool) :
    (places w h).countP p = (Finset.univ.filter fun q => p q = true).card := by
  have univ : (Finset.univ : Finset (Fin w × Fin h)) = (places w h).toFinset := by ext q; simp
  rw [univ, List.countP_eq_length_filter, ← List.toFinset_filter,
    List.toFinset_card_of_nodup (nodup_places.filter _)]

theorem zip_toList (a b : Grid α w h) :
    a.toList.zip b.toList = (places w h).map fun p => (a.get p.1 p.2, b.get p.1 p.2) := by
  rw [toList_eq_map_places, toList_eq_map_places, List.zip_map']

theorem distance_eq_card (a b : Grid State w h) :
    a.distance b =
      (Finset.univ.filter fun p : Fin w × Fin h => a.get p.1 p.2 ≠ b.get p.1 p.2).card := by
  rw [distance, zip_toList, List.countP_map, countP_places]
  simp

theorem distance_eq_zero {a b : Grid State w h} : a.distance b = 0 ↔ a = b := by
  rw [distance_eq_card, Finset.card_eq_zero, Finset.filter_eq_empty_iff]
  constructor
  · intro none
    ext x y
    simpa using none (Finset.mem_univ (x, y))
  · rintro rfl
    simp

/-- The value at a point of the plane, if it lies inside the grid. -/
def at? (g : Grid α w h) (x y : ℤ) : Option α :=
  if inside : 0 ≤ x ∧ x < w ∧ 0 ≤ y ∧ y < h then
    some (g.get ⟨x.toNat, by omega⟩ ⟨y.toNat, by omega⟩)
  else none

/-- The block of three rows and three columns around a cell: the slot `3 * j + i` belongs to the
point `(x + i - 1, y + j - 1)`. -/
def block (g : Grid State w h) (x : Fin w) (y : Fin h) : Window :=
  Vector.ofFn fun k => g.at? (x + (k.val % 3 : ℕ) - 1) (y + (k.val / 3 : ℕ) - 1)

theorem at?_natCast (g : Grid α w h) (x y : ℕ) : g.at? x y = g.get? ⟨x, y⟩ := by
  by_cases inside : x < w ∧ y < h
  · simp [at?, get?, locate?, dif_pos inside]
  · have plane : ¬((0 : ℤ) ≤ x ∧ (x : ℤ) < w ∧ (0 : ℤ) ≤ y ∧ (y : ℤ) < h) := by omega
    rw [at?, get?, locate?, dif_neg inside, dif_neg plane]
    rfl

/-- A shift by one to the left and up, with the check that nothing goes below zero. -/
theorem at?_pred (g : Grid α w h) (x y : ℕ) :
    g.at? (x - 1) (y - 1) = if 1 ≤ x ∧ 1 ≤ y then g.get? ⟨x - 1, y - 1⟩ else none := by
  split_ifs with positive
  · rw [← at?_natCast, Nat.cast_sub positive.1, Nat.cast_sub positive.2]
    rfl
  · exact dif_neg (by omega)

theorem window_eq_block (g : Grid State w h) (x : Fin w) (y : Fin h) :
    g.window x y = g.block x y := by
  ext1 k hk
  simp only [window, block, Vector.getElem_ofFn, ← Nat.cast_add, at?_pred]

end CellularAutomaton.Grid
