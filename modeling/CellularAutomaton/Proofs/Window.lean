import CellularAutomaton.Rule.Basic
import Mathlib

/-!
# What the rules read of a window

The rules compare numbers of neighbors only. So the next state of a cell depends on its own state
and on how many of the eight slots around it hold each of the states that the neighbor rules name.
Which slots these are, what the slot of the cell itself holds, and all that the rules do not name
makes no difference.
-/

namespace CellularAutomaton

namespace Window

variable {v w : Window}

def mirror : Equiv.Perm (Fin 9) :=
  finProdFinEquiv.permCongr ((Equiv.refl (Fin 3)).prodCongr (@Fin.revPerm 3))

def flip : Equiv.Perm (Fin 9) :=
  finProdFinEquiv.permCongr ((@Fin.revPerm 3).prodCongr (Equiv.refl (Fin 3)))

def transpose : Equiv.Perm (Fin 9) := finProdFinEquiv.permCongr (Equiv.prodComm (Fin 3) (Fin 3))

theorem mirror_val : ∀ k : Fin 9, (mirror k).val % 3 = 2 - k.val % 3 ∧
    (mirror k).val / 3 = k.val / 3 := by
  decide

theorem flip_val : ∀ k : Fin 9, (flip k).val % 3 = k.val % 3 ∧
    (flip k).val / 3 = 2 - k.val / 3 := by
  decide

theorem transpose_val : ∀ k :
    Fin 9, (transpose k).val % 3 = k.val / 3 ∧ (transpose k).val / 3 = k.val % 3 := by
  decide

theorem mirror_selfSlot : mirror selfSlot = selfSlot := by decide

theorem flip_selfSlot : flip selfSlot = selfSlot := by decide

theorem transpose_selfSlot : transpose selfSlot = selfSlot := by decide

theorem mem_outerSlots {k : Fin 9} : k ∈ outerSlots ↔ k ≠ selfSlot := by simp [outerSlots]

theorem nodup_outerSlots : outerSlots.Nodup := (List.nodup_finRange 9).filter _

/-- The slots around the cell that have this content. -/
def slotsWith (w : Window) (c : Option State) : Finset (Fin 9) := {k | k ≠ selfSlot ∧ w.get k = c}

def occupied (w : Window) : Finset (Fin 9) := {k | k ≠ selfSlot ∧ w.get k ≠ none}

theorem mem_slotsWith {c : Option State} {k : Fin 9} :
    k ∈ w.slotsWith c ↔ k ≠ selfSlot ∧ w.get k = c := by
  simp [slotsWith]

theorem mem_occupied {k : Fin 9} : k ∈ w.occupied ↔ k ≠ selfSlot ∧ w.get k ≠ none := by
  simp [occupied]

theorem count_eq_card (w : Window) (s : State) : w.count s = (w.slotsWith (some s)).card := by
  have slots : w.slotsWith (some s) = (outerSlots.filter fun k => w.get k = some s).toFinset := by
    ext k
    simp [mem_slotsWith, mem_outerSlots]
  rw [slots, List.toFinset_card_of_nodup (nodup_outerSlots.filter _), count,
    List.countP_eq_length_filter]
  rfl

/-- Slots that trade places around the cell itself hold as many cells in each state as before. -/
theorem card_slotsWith_of_perm {σ : Equiv.Perm (Fin 9)} (centered : σ selfSlot = selfSlot)
    (same : ∀ k, k ≠ selfSlot → w.get k = v.get (σ k)) (c : Option State) :
    (w.slotsWith c).card = (v.slotsWith c).card := by
  refine Finset.card_equiv σ fun k => ?_
  have around : σ k ≠ selfSlot ↔ k ≠ selfSlot := by rw [← σ.injective.ne_iff (x := k), centered]
  rw [mem_slotsWith, mem_slotsWith, around]
  exact and_congr_right fun outer => by rw [same k outer]

theorem slotsWith_congr {c : Option State}
    (same : ∀ k, k ≠ selfSlot → v.get k = w.get k ∨ v.get k ≠ c ∧ w.get k ≠ c) :
    v.slotsWith c = w.slotsWith c := by
  ext k
  rw [mem_slotsWith, mem_slotsWith]
  refine and_congr_right fun outer => ?_
  rcases same k outer with equal | ⟨other, other'⟩
  · rw [equal]
  · exact iff_of_false other other'

theorem sum_count_le (w : Window) {ss : List State} (distinct : ss.Nodup) :
    (ss.map w.count).sum ≤ w.occupied.card := by
  have apart : Set.PairwiseDisjoint (ss.toFinset : Set State) fun s => w.slotsWith (some s) := by
    intro s _ t _ differ
    refine Finset.disjoint_left.2 fun k holds holds' => differ ?_
    exact Option.some.inj ((mem_slotsWith.1 holds).2.symm.trans (mem_slotsWith.1 holds').2)
  calc
    _ = ∑ s ∈ ss.toFinset, (w.slotsWith (some s)).card := by
      rw [← List.sum_toFinset _ distinct]
      exact Finset.sum_congr rfl fun s _ => w.count_eq_card s
    _ = (ss.toFinset.biUnion fun s => w.slotsWith (some s)).card := (Finset.card_biUnion apart).symm
    _ ≤ _ := by
      refine Finset.card_le_card fun k inside => ?_
      obtain ⟨s, -, holds⟩ := Finset.mem_biUnion.1 inside
      obtain ⟨outer, holds⟩ := mem_slotsWith.1 holds
      exact mem_occupied.2 ⟨outer, by simp [holds]⟩

theorem card_occupied_le (w : Window) : w.occupied.card ≤ 8 := by
  have around : w.occupied ⊆ Finset.univ.erase selfSlot := fun k inside =>
    Finset.mem_erase.2 ⟨(mem_occupied.1 inside).1, Finset.mem_univ k⟩
  exact Finset.card_le_card around

theorem count_of_perm {σ : Equiv.Perm (Fin 9)} (centered : σ selfSlot = selfSlot)
    (same : ∀ k : Fin 9, w[k] = v[σ k]) (s : State) : w.count s = v.count s := by
  rw [w.count_eq_card, v.count_eq_card]
  exact card_slotsWith_of_perm centered (fun k _ => same k) (some s)

end Window

namespace RuleSet

theorem nextState_congr (r : RuleSet) (current : State) {v w : Window}
    (same : ∀ rule ∈ r.neighborRules, v.count rule.neighbor = w.count rule.neighbor) :
    r.nextState current v = r.nextState current w := by
  have applies : ∀ rule ∈ r.neighborRules, rule.applies current v = rule.applies current w := by
    intro rule inside
    rw [NeighborRule.applies, NeighborRule.applies, same rule inside]
  have first : r.neighborRules.find? (·.applies current v) =
      r.neighborRules.find? (·.applies current w) :=
    List.find?_congr applies
  rw [nextState, nextState, first]

open Window

/-- Some neighbor rule counts the slots with this content. -/
def Names (r : RuleSet) (c : Option State) : Prop :=
  ∃ rule ∈ r.neighborRules, c = some rule.neighbor

/-- Two windows in which the states that neighbor rules name fill equally many slots around the cell
lead to the same answer. So the slots around the cell may trade places, and the slot of the cell and
slots whose content no rule names may change. No slot is counted twice, and there are eight of
them. -/
theorem transition_depends_on_counts (r : RuleSet) (current : State) :
    (∀ v w : Window, (∀ rule ∈ r.neighborRules,
        (v.slotsWith (some rule.neighbor)).card = (w.slotsWith (some rule.neighbor)).card) →
      r.nextState current v = r.nextState current w) ∧
    (∀ (v w : Window) (σ : Equiv.Perm (Fin 9)), σ selfSlot = selfSlot →
      (∀ k, k ≠ selfSlot → w.get k = v.get (σ k)) → r.nextState current v = r.nextState current w) ∧
    (∀ v w : Window, (∀ k, k ≠ selfSlot → v.get k = w.get k) →
      r.nextState current v = r.nextState current w) ∧
    (∀ v w : Window,
      (∀ k, k ≠ selfSlot → v.get k = w.get k ∨ ¬r.Names (v.get k) ∧ ¬r.Names (w.get k)) →
        r.nextState current v = r.nextState current w) ∧
    ∀ (w : Window) (ss : List State), ss.Nodup → (ss.map w.count).sum ≤ w.occupied.card ∧
      w.occupied.card ≤ 8 := by
  have counts : ∀ v w : Window, (∀ rule ∈ r.neighborRules,
      (v.slotsWith (some rule.neighbor)).card = (w.slotsWith (some rule.neighbor)).card) →
      r.nextState current v = r.nextState current w := by
    intro v w same
    refine r.nextState_congr current fun rule inside => ?_
    rw [v.count_eq_card, w.count_eq_card, same rule inside]
  refine ⟨counts, ?_, ?_, ?_, fun w ss distinct => ⟨w.sum_count_le distinct, w.card_occupied_le⟩⟩
  · intro v w σ centered same
    exact counts v w fun rule _ => (card_slotsWith_of_perm centered same _).symm
  · intro v w same
    exact counts v w fun rule _ =>
      congrArg Finset.card (slotsWith_congr fun k outer => .inl (same k outer))
  · intro v w same
    refine counts v w fun rule inside => congrArg Finset.card (slotsWith_congr fun k outer => ?_)
    refine (same k outer).imp_right fun ⟨unnamed, unnamed'⟩ => ⟨?_, ?_⟩
    · exact fun named => unnamed ⟨rule, inside, named⟩
    · exact fun named => unnamed' ⟨rule, inside, named⟩

/-- Three neighbors in the state 1 bring a cell to life, wherever they are and whatever else is
around. -/
theorem transition_depends_on_counts_life :
    let r : RuleSet := ⟨[0, 1, 2], [0.5, 0.25, 0.25], [], [⟨.exactly, 3, 1, none, 1⟩], .literal 0⟩
    let v : Window := #v[some 1, none, some 1, some 0, some 0, some 2, none, none, some 1]
    let w : Window := #v[none, some 1, some 2, some 1, some 1, some 0, some 0, none, some 1]
    (∀ rule ∈ r.neighborRules,
      (v.slotsWith (some rule.neighbor)).card = (w.slotsWith (some rule.neighbor)).card) ∧
    r.nextState 0 v = r.nextState 0 w ∧ r.nextState 0 w = .ok 1 ∧
    ([0, 1, 2] : List State).Nodup ∧
    (([0, 1, 2] : List State).map w.count).sum ≤ w.occupied.card := by
  intro r v w
  have same : ∀ rule ∈ r.neighborRules,
      (v.slotsWith (some rule.neighbor)).card = (w.slotsWith (some rule.neighbor)).card := by
        decide +kernel
  have distinct : ([0, 1, 2] : List State).Nodup := by decide
  exact ⟨same, (transition_depends_on_counts r 0).1 v w same, by decide +kernel, distinct,
    ((transition_depends_on_counts r 0).2.2.2.2 w _ distinct).1⟩

end RuleSet

end CellularAutomaton
