import CellularAutomaton.Proofs.RuleFile.Format

/-!
# The order of the rules

Which of two rules comes first matters only if both are simple rules or both are neighbor rules. So
rule files with the same header describe the same rule set if and only if the rules of one are those
of the other in an order that is the same within each of these kinds.
-/

namespace CellularAutomaton

open Text

/-! ## Rearrangements -/

/-- The second list has the elements of the first in another order, but elements that are related
keep theirs: the numbers that they had in the first list ascend. -/
def Rearranged {α : Type} (kept : α → α → Prop) (l l' : List α) : Prop :=
  ∃ numbered : List (α × ℕ), numbered.Perm l.zipIdx ∧ numbered.map Prod.fst = l' ∧
    numbered.Pairwise fun a b => kept a.1 b.1 → a.2 < b.2

section

variable {α β : Type} {kept : α → α → Prop} {l l' : List α}

theorem zipIdx_ascending (l : List α) : l.zipIdx.Pairwise fun a b => a.2 < b.2 := by
  rw [← List.pairwise_map, List.zipIdx_map_snd]
  exact List.pairwise_lt_range'

theorem Rearranged.perm (rearranged : Rearranged kept l l') : l'.Perm l := by
  obtain ⟨numbered, perm, rfl, -⟩ := rearranged
  simpa only [List.zipIdx_map_fst] using perm.map Prod.fst

theorem Rearranged.filter_eq (rearranged : Rearranged kept l l') {p : α → Bool}
    (related : ∀ a b, p a → p b → kept a b) : l'.filter p = l.filter p := by
  obtain ⟨numbered, perm, rfl, ordered⟩ := rearranged
  have ascending : (numbered.filter (p ∘ Prod.fst)).Pairwise fun a b => a.2 < b.2 := by
    refine (ordered.filter _).imp_of_mem fun {a b} first second kept => kept ?_
    exact related _ _ (List.mem_filter.1 first).2 (List.mem_filter.1 second).2
  have same : numbered.filter (p ∘ Prod.fst) = l.zipIdx.filter (p ∘ Prod.fst) := by
    refine List.Perm.eq_of_pairwise ?_ ascending ((zipIdx_ascending l).filter _) (perm.filter _)
    intro a b _ _ below above
    omega
  calc
    _ = (l.zipIdx.filter (p ∘ Prod.fst)).map Prod.fst := by rw [List.filter_map, same]
    _ = _ := by rw [← List.filter_map, List.zipIdx_map_fst]

section

variable [DecidableRel kept] (symm : ∀ a b, kept a b → kept b a)
    (trans : ∀ a b c, kept a b → kept b c → kept a c)

include symm trans

theorem exists_first {numbered : List (α × ℕ)} {a : α} (inside : a ∈ numbered.map Prod.fst)
    (same : (numbered.map Prod.fst).filter (kept a ·) = (a :: l').filter (kept a ·)) :
    ∃ above n below, numbered = above ++ (a, n) :: below ∧ ∀ b ∈ above, ¬kept a b.1 := by
  by_cases self : kept a a
  · rw [List.filter_cons_of_pos (by simpa using self), List.filter_eq_cons_iff] at same
    obtain ⟨before, after, split, none, -, -⟩ := same
    obtain ⟨above, tail, rfl, rfl, cut⟩ := List.map_eq_append_iff.1 split
    obtain ⟨⟨a, n⟩, below, rfl, rfl, -⟩ := List.map_eq_cons_iff.1 cut
    refine ⟨above, n, below, rfl, fun b member related => ?_⟩
    exact none b.1 (List.mem_map_of_mem member) (by simpa using related)
  · obtain ⟨⟨a, n⟩, member, rfl⟩ := List.mem_map.1 inside
    obtain ⟨above, below, split⟩ := List.append_of_mem member
    exact ⟨above, n, below, split, fun b _ related => self (trans _ _ _ related (symm _ _ related))⟩

/-- Related elements are in the same order as before when the first of them is taken out of both
lists. -/
theorem filter_taken {above below : List α} {a c : α} (first : ∀ b ∈ above, ¬kept a b)
    (same : (above ++ a :: below).filter (kept c ·) = (a :: l').filter (kept c ·)) :
    (above ++ below).filter (kept c ·) = l'.filter (kept c ·) := by
  simp only [List.filter_append, List.filter_cons] at same ⊢
  by_cases related : kept c a
  · have none : above.filter (kept c ·) = [] := by
      simp only [List.filter_eq_nil_iff, decide_eq_true_eq]
      exact fun b member also => first b member (trans _ _ _ (symm _ _ related) also)
    simpa [related, none] using same
  · simpa [related] using same

/-- A rearrangement is built from its first element on: each is taken from where it stands in what
is left of the list. -/
theorem exists_numbered {numbered : List (α × ℕ)}
    (ascending : numbered.Pairwise fun a b => a.2 < b.2) (perm : (numbered.map Prod.fst).Perm l')
    (same : ∀ c, (numbered.map Prod.fst).filter (kept c ·) = l'.filter (kept c ·)) :
    ∃ moved : List (α × ℕ), moved.Perm numbered ∧ moved.map Prod.fst = l' ∧
      moved.Pairwise fun a b => kept a.1 b.1 → a.2 < b.2 := by
  induction l' generalizing numbered with
  | nil => exact ⟨[], by simpa using perm.symm, rfl, .nil⟩
  | cons a l' ih =>
    obtain ⟨above, n, below, rfl, first⟩ :=
      exists_first symm trans (perm.mem_iff.2 List.mem_cons_self) (same a)
    obtain ⟨ascendAbove, ascendBelow, across⟩ := List.pairwise_append.1 ascending
    obtain ⟨later, ascendBelow⟩ := List.pairwise_cons.1 ascendBelow
    have left : (above ++ below).Pairwise fun a b => a.2 < b.2 := List.pairwise_append.2
      ⟨ascendAbove, ascendBelow, fun b member c also =>
        across b member c (List.mem_cons_of_mem _ also)⟩
    simp only [List.map_append, List.map_cons] at perm same
    have permLeft : ((above ++ below).map Prod.fst).Perm l' := by
      rw [List.map_append]
      exact (List.perm_middle.symm.trans perm).cons_inv
    have sameLeft : ∀ c, ((above ++ below).map Prod.fst).filter (kept c ·) =
        l'.filter (kept c ·) := by
      intro c
      rw [List.map_append]
      exact filter_taken symm trans (List.forall_mem_map.2 first) (same c)
    obtain ⟨moved, permMoved, rfl, ordered⟩ := ih left permLeft sameLeft
    refine ⟨(a, n) :: moved, (permMoved.cons _).trans List.perm_middle.symm, rfl, .cons ?_ ordered⟩
    intro b member related
    rcases List.mem_append.1 (permMoved.mem_iff.1 member) with before | after
    · exact absurd related (first b before)
    · exact later b after

theorem rearranged_of_perm (perm : l.Perm l')
    (same : ∀ c, l.filter (kept c ·) = l'.filter (kept c ·)) :
    Rearranged kept l l' :=
  exists_numbered symm trans (zipIdx_ascending l) (by simpa only [List.zipIdx_map_fst] using perm)
    (by simpa only [List.zipIdx_map_fst] using same)

end

theorem forall₂_zipIdx {R : α → β → Prop} {k : List β} (related : List.Forall₂ R l k) (n : ℕ) :
    List.Forall₂ (fun a x => R a.1 x.1 ∧ a.2 = x.2) (l.zipIdx n) (k.zipIdx n) := by
  induction related generalizing n with
  | nil => exact .nil
  | cons first _ ih => exact .cons ⟨first, rfl⟩ (ih (n + 1))

theorem pairwise_of_forall₂ {R : α → β → Prop} {P : α → α → Prop} {Q : β → β → Prop} {k : List β}
    (each : List.Forall₂ R l k) (pairwise : l.Pairwise P)
    (imp : ∀ a b x y, R a x → R b y → P a b → Q x y) :
    k.Pairwise Q := by
  obtain ⟨length, each⟩ := List.forall₂_iff_get.1 each
  rw [List.pairwise_iff_getElem] at pairwise ⊢
  intro i j first second below
  exact imp _ _ _ _ (each i (by omega) first) (each j (by omega) second) (pairwise i j _ _ below)

theorem Rearranged.exists_forall₂ {R : α → β → Prop} {kept' : β → β → Prop} {k : List β}
    (rearranged : Rearranged kept l l') (related : List.Forall₂ R l k)
    (keeps : ∀ a b x y, R a x → R b y → kept' x y → kept a b) :
    ∃ k', List.Forall₂ R l' k' ∧ Rearranged kept' k k' := by
  obtain ⟨numbered, perm, rfl, ordered⟩ := rearranged
  obtain ⟨moved, each, perm⟩ := List.perm_comp_forall₂ perm (forall₂_zipIdx related 0)
  refine ⟨moved.map Prod.fst, ?_, moved, perm, rfl, pairwise_of_forall₂ each ordered ?_⟩
  · exact List.forall₂_map_left_iff.2
      (List.forall₂_map_right_iff.2 (each.imp fun _ _ both => both.1))
  · rintro a b x y ⟨first, same⟩ ⟨second, same'⟩ ascend related
    rw [← same, ← same']
    exact ascend (keeps _ _ _ _ first second related)

end

/-! ## Rules of a kind -/

namespace RuleLine

def SameKind (a b : RuleLine) : Prop := (a.isSimple ∧ b.isSimple) ∨ (a.isNeighbor ∧ b.isNeighbor)

instance : DecidableRel SameKind := fun _ _ => inferInstanceAs (Decidable (_ ∨ _))

theorem SameKind.symm (a b : RuleLine) : SameKind a b → SameKind b a := .imp And.symm And.symm

theorem SameKind.trans (a b c : RuleLine) : SameKind a b → SameKind b c → SameKind a c := by
  cases a <;> cases b <;> cases c <;> simp [SameKind, isSimple, isNeighbor]

theorem sameKind_simple (r : SimpleRule) (rule : RuleLine) :
    decide (SameKind (.simple r) rule) = rule.isSimple := by
  cases rule <;> rfl

theorem sameKind_neighbor (r : NeighborRule) (rule : RuleLine) :
    decide (SameKind (.neighbor r) rule) = rule.isNeighbor := by
  cases rule <;> rfl

theorem sameKind_fallback (e : Expr) (rule : RuleLine) :
    decide (SameKind (.fallback e) rule) = false := by
  cases rule <;> rfl

theorem perm_kinds (rules : List RuleLine) :
    rules.Perm (rules.filter isSimple ++ rules.filter isNeighbor ++ rules.filter isFallback) := by
  induction rules with
  | nil => rfl
  | cons rule rules ih =>
    cases rule with
    | simple r => exact ih.cons _
    | neighbor r =>
      rw [List.append_assoc] at ih ⊢
      exact (ih.cons _).trans List.perm_middle.symm
    | fallback e => exact (ih.cons _).trans List.perm_middle.symm

/-- The order within the two kinds is kept, and there are the same default rules. -/
theorem rearranged_iff {rules rules' : List RuleLine} : Rearranged SameKind rules rules' ↔
    rules.filter isSimple = rules'.filter isSimple ∧
    rules.filter isNeighbor = rules'.filter isNeighbor ∧
      (rules.filter isFallback).Perm (rules'.filter isFallback) := by
  constructor
  · intro rearranged
    refine ⟨(rearranged.filter_eq ?_).symm, (rearranged.filter_eq ?_).symm,
      (rearranged.perm.filter _).symm⟩
    · exact fun a b first second => .inl ⟨first, second⟩
    · exact fun a b first second => .inr ⟨first, second⟩
  · rintro ⟨simple, neighbor, fallback⟩
    refine rearranged_of_perm SameKind.symm SameKind.trans ?_ fun c => ?_
    · refine (perm_kinds rules).trans (.trans ?_ (perm_kinds rules').symm)
      rw [simple, neighbor]
      exact fallback.append_left _
    · cases c with
      | simple r => simpa only [sameKind_simple] using simple
      | neighbor r => simpa only [sameKind_neighbor] using neighbor
      | fallback e => simp only [sameKind_fallback, List.filter_false]

end RuleLine

/-! ## Texts and their rules -/

namespace RuleFile

/-- The line is read as the rule, whatever its number is. -/
def Holds (line : List Char) (rule : RuleLine) : Prop :=
  ∀ number, RuleLine.read number (lowercase (content line)) = .ok rule

theorem holds_iff {line : List Char} {rule : RuleLine} :
    Holds line rule ↔ RuleLine.Written (lowercase (content line)) rule :=
  ⟨fun holds => (RuleLine.read_eq_ok_iff (head_lowercase (trimmed_trim _).bare.head)).1 (holds 0),
    fun written number => written.read_eq number⟩

/-- The text has three lines at its head, the last of which tells how many rule lines follow. Below
these there may be more. -/
structure Arranged (first second third : List Char) (rows rest : List (List Char))
    (text : List Char) : Prop where
  separated : Separated '\n' (first :: second :: third :: (rows ++ rest)) text
  count : Reads Numeral.readSize? (content third) rows.length

/-- The first two lines say what the states of the rule set are and how probable each of them is,
and it does not have too many rules. -/
structure Heads (tolerance : Float) (first second : List Char) (count : ℕ)
    (r : RuleSet) : Prop where
  states : Enumerates Numeral.readInt32? (content first) r.states
  distinct : r.states.Nodup
  probabilities : Enumerates Numeral.readFloat? (content second) r.probabilities
  matching : r.probabilities.length = r.states.length
  admissible : ∀ p ∈ r.probabilities, p.isFinite ∧ 0 ≤ p
  total : ¬(totalProbability r.probabilities - 1.0).abs > tolerance
  small : count + 3 < UInt64.size

structure Makes (rules : List RuleLine) (r : RuleSet) : Prop where
  simple : rules.filter RuleLine.isSimple = r.simpleRules.map .simple
  neighbor : rules.filter RuleLine.isNeighbor = r.neighborRules.map .neighbor
  fallback : rules.filter RuleLine.isFallback = [.fallback r.defaultRule]

variable {tolerance : Float} {text text' : String} {r r' : RuleSet} {first second third : List Char}
  {rows rest rows' rest' : List (List Char)} {rules rules' : List RuleLine}

theorem Arranged.lines_eq (arranged : Arranged first second third rows rest text.toList) :
    lines text.toList = content first :: content second :: content third ::
      (rows.map content ++ rest.map content) := by
  rw [lines, splitOn_eq_iff.2 arranged.separated]
  simp only [List.map_cons, List.map_append]

theorem forall₂_holds_iff : List.Forall₂ Holds rows rules ↔
    List.Forall₂ (fun text rule => RuleLine.Written (lowercase text) rule)
      (rows.map content) rules := by
  simp only [List.forall₂_map_left_iff, ← holds_iff]

theorem Arranged.parse_eq_ok_iff (arranged : Arranged first second third rows rest text.toList) :
    RuleSet.parse tolerance text = .ok r ↔
      Heads tolerance first second rows.length r ∧ ∃ rules, List.Forall₂ Holds rows rules ∧
        Makes rules r := by
  rw [RuleSet.parse_eq_ok_iff, arranged.lines_eq]
  constructor
  · generalize lined : content first :: content second :: content third ::
      (rows.map content ++ rest.map content) = ls
    rintro @⟨_, _, _, texts, below, rules, _, states, distinct, probabilities, matching, admissible,
      total, count, small, written, simple, neighbor, fallback⟩
    obtain ⟨rfl, rfl, rfl, same⟩ : _ ∧ _ ∧ _ ∧ _ := by simpa using lined
    have length : rows.length = texts.length := by
      have counted := reads_iff.1 arranged.count
      rw [reads_iff.1 count] at counted
      exact (Option.some.inj counted).symm
    obtain ⟨rfl, -⟩ := List.append_inj same (by rwa [List.length_map])
    exact ⟨⟨states, distinct, probabilities, matching, admissible, total, length ▸ small⟩, rules,
      forall₂_holds_iff.2 written, simple, neighbor, fallback⟩
  · rintro ⟨heads, rules, read, makes⟩
    refine .intro heads.states heads.distinct heads.probabilities heads.matching heads.admissible
      heads.total ?_ ?_
      (forall₂_holds_iff.1 read) makes.simple makes.neighbor makes.fallback
    · rw [List.length_map]
      exact arranged.count
    · rw [List.length_map]
      exact heads.small

theorem Makes.rearranged (makes : Makes rules r)
    (rearranged : Rearranged RuleLine.SameKind rules rules') :
    Makes rules' r := by
  obtain ⟨simple, neighbor, fallback⟩ := RuleLine.rearranged_iff.1 rearranged
  rw [makes.fallback] at fallback
  exact ⟨simple ▸ makes.simple, neighbor ▸ makes.neighbor, List.perm_singleton.1 fallback.symm⟩

theorem Makes.eq_iff (makes : Makes rules r) (makes' : Makes rules' r') : r' = r ↔
    r'.states = r.states ∧ r'.probabilities = r.probabilities ∧
    Rearranged RuleLine.SameKind rules rules' := by
  rw [RuleLine.rearranged_iff, makes.simple, makes.neighbor, makes.fallback, makes'.simple,
    makes'.neighbor, makes'.fallback]
  constructor
  · rintro rfl
    exact ⟨rfl, rfl, rfl, rfl, .rfl⟩
  · rintro ⟨states, probabilities, simple, neighbor, fallback⟩
    obtain ⟨ss, ps, srs, nrs, e⟩ := r
    obtain ⟨ss', ps', srs', nrs', e'⟩ := r'
    simp only at states probabilities simple neighbor fallback
    rw [List.map_inj_right fun r s => RuleLine.simple.inj] at simple
    rw [List.map_inj_right fun r s => RuleLine.neighbor.inj] at neighbor
    obtain rfl : e = e' := by simpa using fallback
    rw [states, probabilities, simple, neighbor]

end RuleFile

open RuleFile in
/-- Rule lines in another order are read as the same rule set, with the same next states, if those
of a kind keep their order. Two texts that are read give the same rule set only if their rules are
such a rearrangement, and then they do if the states and the probabilities are the same. -/
theorem RuleSet.order_matters_within_kinds {tolerance : Float} {text : String} {r : RuleSet}
    {first second third : List Char} {rows rest : List (List Char)}
    (parsed : parse tolerance text = .ok r)
    (arranged : Arranged first second third rows rest text.toList) :
    (∀ (text' : String) rows', Separated '\n' (first :: second :: third :: (rows' ++ rest))
      text'.toList →
      Rearranged (fun a b => ∃ rule rule', Holds a rule ∧ Holds b rule' ∧ rule.SameKind rule')
        rows rows' →
      ∃ r', parse tolerance text' = .ok r' ∧ r' = r ∧
        ∀ current w, r'.nextState current w = r.nextState current w) ∧
    ∀ tolerance' (text' : String) r' first' second' third' rows' rest',
      parse tolerance' text' = .ok r' →
      Arranged first' second' third' rows' rest' text'.toList →
      ∃ rules rules', List.Forall₂ Holds rows rules ∧ List.Forall₂ Holds rows' rules' ∧
        (r' = r ↔ r'.states = r.states ∧ r'.probabilities = r.probabilities ∧
          Rearranged RuleLine.SameKind rules rules') := by
  obtain ⟨heads, rules, read, makes⟩ := arranged.parse_eq_ok_iff.1 parsed
  constructor
  · intro text' rows' separated rearranged
    have keeps : ∀ a b rule rule', Holds a rule → Holds b rule' → rule.SameKind rule' →
        ∃ rule rule', Holds a rule ∧ Holds b rule' ∧ rule.SameKind rule' :=
      fun a b rule rule' holds holds' same => ⟨rule, rule', holds, holds', same⟩
    obtain ⟨rules', read', moved⟩ := rearranged.exists_forall₂ read keeps
    have length : rows'.length = rows.length := rearranged.perm.length_eq
    have arranged' : Arranged first second third rows' rest text'.toList :=
      ⟨separated, length ▸ arranged.count⟩
    exact ⟨r, arranged'.parse_eq_ok_iff.2 ⟨length ▸ heads, rules', read', makes.rearranged moved⟩,
      rfl, fun _ _ => rfl⟩
  · intro tolerance' text' r' first' second' third' rows' rest' parsed' arranged'
    obtain ⟨-, rules', read', makes'⟩ := arranged'.parse_eq_ok_iff.1 parsed'
    exact ⟨rules, rules', read, read', makes.eq_iff makes'⟩

open RuleFile in
/-- The default rule and a neighbor rule overtake simple rules, and nothing changes. The simple
rules must not change places, since the first of them for a state counts. -/
theorem RuleSet.order_matters_within_kinds_overtaken :
    let header := "0,1\n1,0\n4\n"
    let rows := ["0 -> 1".toList, "0 -> 0".toList, "Min 2: 1 -> 0".toList,
      "default -> x // stay".toList]
    let swapped := ["0 -> 0".toList, "0 -> 1".toList, "Min 2: 1 -> 0".toList,
      "default -> x // stay".toList]
    ∃ r, parse 0.1 (header ++ "0 -> 1\n0 -> 0\nMin 2: 1 -> 0\ndefault -> x // stay") = .ok r ∧
      parse 0.1 (header ++ "default -> x // stay\n0 -> 1\nMin 2: 1 -> 0\n0 -> 0") = .ok r ∧
      ∃ rules rules', List.Forall₂ Holds rows rules ∧ List.Forall₂ Holds swapped rules' ∧
        ¬Rearranged RuleLine.SameKind rules rules' := by
  intro header rows swapped
  have parsed : parse 0.1 (header ++ "0 -> 1\n0 -> 0\nMin 2: 1 -> 0\ndefault -> x // stay") =
      .ok ⟨[0, 1], [1, 0], [⟨0, 1⟩, ⟨0, 0⟩], [⟨.atLeast, 2, 1, none, 0⟩], .var⟩ := by decide +kernel
  have parsed' : parse 0.1 (header ++ "0 -> 0\n0 -> 1\nMin 2: 1 -> 0\ndefault -> x // stay") =
      .ok ⟨[0, 1], [1, 0], [⟨0, 0⟩, ⟨0, 1⟩], [⟨.atLeast, 2, 1, none, 0⟩], .var⟩ := by decide +kernel
  have count : Reads Numeral.readSize? (content ['4']) 4 := reads_iff.2 (by decide)
  have arranged : Arranged "0,1".toList "1,0".toList ['4'] rows []
      (header ++ "0 -> 1\n0 -> 0\nMin 2: 1 -> 0\ndefault -> x // stay").toList :=
    ⟨splitOn_eq_iff.1 (by decide), count⟩
  have arranged' : Arranged "0,1".toList "1,0".toList ['4'] swapped []
      (header ++ "0 -> 0\n0 -> 1\nMin 2: 1 -> 0\ndefault -> x // stay").toList :=
    ⟨splitOn_eq_iff.1 (by decide), count⟩
  obtain ⟨forward, backward⟩ := order_matters_within_kinds parsed arranged
  obtain ⟨rules, rules', read, read', iff⟩ := backward _ _ _ _ _ _ _ _ parsed' arranged'
  have fallback : ∀ rule, Holds "default -> x // stay".toList rule → rule = .fallback .var := by
    intro rule holds
    exact Except.ok.inj ((holds 0).symm.trans (by decide +kernel))
  have neighbor : ∀ rule, Holds "Min 2: 1 -> 0".toList rule →
      rule = .neighbor ⟨.atLeast, 2, 1, none, 0⟩ := by
    intro rule holds
    exact Except.ok.inj ((holds 0).symm.trans (by decide +kernel))
  have simple : ∀ rule, Holds "0 -> 0".toList rule → rule = .simple ⟨0, 0⟩ := by
    intro rule holds
    exact Except.ok.inj ((holds 0).symm.trans (by decide +kernel))
  have overtaken : Rearranged (fun a b => ∃ rule rule', Holds a rule ∧ Holds b rule' ∧
    rule.SameKind rule') rows
      ["default -> x // stay".toList, "0 -> 1".toList, "Min 2: 1 -> 0".toList,
        "0 -> 0".toList] := by
    refine ⟨[("default -> x // stay".toList, 3), ("0 -> 1".toList, 0), ("Min 2: 1 -> 0".toList, 2),
      ("0 -> 0".toList, 1)], by decide, rfl, ?_⟩
    have first : ∀ row, ¬∃ rule rule', Holds "default -> x // stay".toList rule ∧ Holds row rule' ∧
        rule.SameKind rule' := by
      rintro row ⟨rule, rule', holds, -, same⟩
      rw [fallback rule holds] at same
      simp [RuleLine.SameKind, RuleLine.isSimple, RuleLine.isNeighbor] at same
    have third : ¬∃ rule rule', Holds "Min 2: 1 -> 0".toList rule ∧ Holds "0 -> 0".toList rule' ∧
        rule.SameKind rule' := by
      rintro ⟨rule, rule', holds, holds', same⟩
      rw [neighbor rule holds, simple rule' holds'] at same
      exact absurd same (by decide)
    refine .cons ?_ (.cons ?_ (.cons ?_ (.cons (by simp) .nil)))
    · exact fun b _ related => absurd related (first b.1)
    · exact List.forall_mem_cons.2
        ⟨fun _ => by decide, List.forall_mem_singleton.2 fun _ => by decide⟩
    · exact List.forall_mem_singleton.2 fun related => absurd related third
  refine ⟨_, parsed, ?_, rules, rules', read, read', fun rearranged => ?_⟩
  · obtain ⟨r, parsed'', rfl, -⟩ := forward
      (header ++ "default -> x // stay\n0 -> 1\nMin 2: 1 -> 0\n0 -> 0") _
        (splitOn_eq_iff.1 (by decide)) overtaken
    exact parsed''
  · exact absurd (iff.2 ⟨rfl, rfl, rearranged⟩) (by decide)

end CellularAutomaton
