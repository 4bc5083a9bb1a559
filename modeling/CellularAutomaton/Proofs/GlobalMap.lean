import CellularAutomaton.Proofs.Grid

/-!
# The synchronous global map

The rules send each cell of a grid to the state that they give for the cell and the block around it.
A step of a world computes this map on the whole grid, or fails where it is not defined: the loop
over the cells writes every place of the second buffer once, and reads the first buffer only.
-/

namespace CellularAutomaton

variable {w h : ℕ}

namespace RuleSet

variable (r : RuleSet) (strict : Bool) (g : Grid State w h)

/-- The state that the rules give for a cell amid its block. -/
def target (x : Fin w) (y : Fin h) : Except EvalError State := r.nextState (g.get x y) (g.block x y)

/-- The state that a cell goes to, unless its rule fails or, under `strict`, leads to a state that
is not possible. -/
def allowed? (x : Fin w) (y : Fin h) : Option State :=
  match r.target g x y with
  | .ok s => if strict = true → s ∈ r.states then some s else none
  | .error _ => none

def globalMap : Option (Grid State w h) :=
  if total : ∀ x y, (r.allowed? strict g x y).isSome then
    some (.ofFn fun x y => (r.allowed? strict g x y).get (total x y))
  else none

variable {r strict g}

theorem allowed?_eq_some {x : Fin w} {y : Fin h} {s : State} :
    r.allowed? strict g x y = some s ↔ r.target g x y = .ok s ∧ (strict = true → s ∈ r.states) := by
  unfold allowed?
  split
  · next t found =>
    rw [found]
    split_ifs with possible
    · constructor
      · intro same
        cases same
        exact ⟨rfl, possible⟩
      · rintro ⟨same, -⟩
        cases same
        rfl
    · constructor
      · simp
      · rintro ⟨same, holds⟩
        cases same
        exact absurd holds possible
  · next failed => simp [failed]

theorem globalMap_eq_some {next : Grid State w h} :
    r.globalMap strict g = some next ↔ ∀ x y, r.allowed? strict g x y = some (next.get x y) := by
  unfold globalMap
  split_ifs with total
  · constructor
    · intro same x y
      cases same
      simp
    · intro each
      congr 1
      ext x y
      simp [each]
  · constructor
    · simp
    · intro each
      exact absurd (fun x y => by simp [each]) total

theorem globalMap_eq_none :
    r.globalMap strict g = none ↔ ∃ x y, r.allowed? strict g x y = none := by
  unfold globalMap
  split_ifs with total
  · simp only [false_iff]
    rintro ⟨x, y, missing⟩
    simpa [missing] using total x y
  · simpa using total

/-- Whether states that are not possible are let through makes no difference to where the cells
go. -/
theorem globalMap_unique {other : Bool} {a b : Grid State w h}
    (left : r.globalMap strict g = some a) (right : r.globalMap other g = some b) : a = b := by
  ext x y
  have first := (allowed?_eq_some.1 (globalMap_eq_some.1 left x y)).1
  have second := (allowed?_eq_some.1 (globalMap_eq_some.1 right x y)).1
  exact Except.ok.inj (first.symm.trans second)

theorem globalMap_true_eq_some {next : Grid State w h} :
    r.globalMap true g = some next ↔
      r.globalMap false g = some next ∧ ∀ x y, next.get x y ∈ r.states := by
  simp only [globalMap_eq_some, allowed?_eq_some, Bool.false_eq_true, false_implies,
    forall_const, and_true, forall_and]

theorem nextCell_eq_ok {x : Fin w} {y : Fin h} {s : State} :
    r.nextCell strict g x y = .ok s ↔ r.allowed? strict g x y = some s := by
  rw [allowed?_eq_some, nextCell, Grid.window_eq_block, target]
  cases r.nextState (g.get x y) (g.block x y) with
  | error e => simp
  | ok t =>
    dsimp only
    split_ifs with bad
    · simp only [false_iff, not_and]
      rintro same
      cases same
      simpa [isPossible] using bad
    · simp only [Except.ok.injEq]
      constructor
      · rintro rfl
        exact ⟨rfl, fun on => by simpa [isPossible, on] using bad⟩
      · exact And.left

/-! ## The loop over the cells -/

theorem get_fill_of_not_mem {places : List (Fin w × Fin h)} {scratch : Grid State w h}
    {q : Fin w × Fin h} (outside : q ∉ places) :
    (r.fill strict g places scratch).2.get q.1 q.2 = scratch.get q.1 q.2 := by
  induction places generalizing scratch with
  | nil => rfl
  | cons p rest ih =>
    rw [List.mem_cons, not_or] at outside
    unfold fill
    split
    · rfl
    · rw [ih outside.2, Grid.get_set, if_neg]
      rintro ⟨column, row⟩
      exact outside.1 (Prod.ext column.symm row.symm)

theorem nextCell_of_fill {places : List (Fin w × Fin h)} {scratch : Grid State w h}
    (done : (r.fill strict g places scratch).1 = .ok ()) {q : Fin w × Fin h} (inside : q ∈ places) :
    r.nextCell strict g q.1 q.2 = .ok ((r.fill strict g places scratch).2.get q.1 q.2) := by
  induction places generalizing scratch with
  | nil => simp at inside
  | cons p rest ih =>
    unfold fill at done ⊢
    split at done
    · cases done
    · next s computed =>
      by_cases later : q ∈ rest
      · exact ih done later
      · obtain rfl : q = p := (List.mem_cons.1 inside).resolve_right later
        rw [get_fill_of_not_mem later, Grid.get_set, if_pos ⟨rfl, rfl⟩, computed]

theorem fill_eq_ok_iff {places : List (Fin w × Fin h)} {scratch : Grid State w h} :
    (r.fill strict g places scratch).1 = .ok () ↔
      ∀ q ∈ places, ∃ s, r.nextCell strict g q.1 q.2 = .ok s := by
  induction places generalizing scratch with
  | nil => simp [fill]
  | cons p rest ih =>
    unfold fill
    split
    · next failed => simp [failed]
    · next computed => simp [ih, computed]

/-- What the loop answers does not depend on what it overwrites. -/
theorem fill_fst_eq (places : List (Fin w × Fin h)) (scratch other : Grid State w h) :
    (r.fill strict g places scratch).1 = (r.fill strict g places other).1 := by
  induction places generalizing scratch other with
  | nil => rfl
  | cons p rest ih =>
    simp only [fill]
    split
    · rfl
    · exact ih _ _

theorem fill_of_globalMap {next : Grid State w h} (defined : r.globalMap strict g = some next)
    (scratch : Grid State w h) : r.fill strict g (Grid.places w h) scratch = (.ok (), next) := by
  have each := globalMap_eq_some.1 defined
  have done : (r.fill strict g (Grid.places w h) scratch).1 = .ok () :=
    fill_eq_ok_iff.2 fun q _ => ⟨_, nextCell_eq_ok.2 (each q.1 q.2)⟩
  refine Prod.ext done ?_
  ext x y
  have written := nextCell_of_fill done (Grid.mem_places (x, y))
  rw [nextCell_eq_ok, each] at written
  exact (Option.some.inj written).symm

theorem fill_of_globalMap_eq_none (undefined : r.globalMap strict g = none)
    (scratch : Grid State w h) :
    ∃ e, (r.fill strict g (Grid.places w h) scratch).1 = .error e := by
  obtain ⟨x, y, missing⟩ := globalMap_eq_none.1 undefined
  cases answer : (r.fill strict g (Grid.places w h) scratch).1 with
  | error e => exact ⟨e, rfl⟩
  | ok =>
    obtain ⟨s, computed⟩ := fill_eq_ok_iff.1 answer (x, y) (Grid.mem_places _)
    rw [nextCell_eq_ok, missing] at computed
    cases computed

end RuleSet

end CellularAutomaton
