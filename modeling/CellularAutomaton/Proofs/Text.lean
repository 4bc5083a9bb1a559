import CellularAutomaton.Text.Fields
import CellularAutomaton.Text.Lowercase
import Mathlib

/-!
# Texts as they are written

What is written to a rule file consists of plain characters. Lower-casing leaves such a text alone,
trimming removes the blanks that were put around it, and a cut finds the separator that was put in.
-/

namespace CellularAutomaton.Text

theorem forall_mem_of_all {p : Char → Prop} [DecidablePred p] {cs : List Char}
    (all : cs.all fun c => p c) :
    ∀ c ∈ cs, p c := fun c inside => of_decide_eq_true (List.all_eq_true.1 all c inside)

/-- Printable ASCII characters other than capitals, the blank included. -/
def IsPlain (c : Char) : Prop :=
  0x20 ≤ c.toNat ∧ c.toNat < 0x7F ∧ ¬(0x41 ≤ c.toNat ∧ c.toNat ≤ 0x5A)

instance : DecidablePred IsPlain := fun _ => inferInstanceAs (Decidable (_ ∧ _))

theorem isPlain_of_isDigit {c : Char} (digit : c.isDigit) : IsPlain c := by
  have bounds : 48 ≤ c.toNat ∧ c.toNat ≤ 57 := by simpa [Char.isDigit_iff_toNat] using digit
  refine ⟨?_, ?_, ?_⟩ <;> omega

theorem IsPlain.isBlank_iff {c : Char} (plain : IsPlain c) : isBlank c = true ↔ c = ' ' := by
  obtain ⟨lower, upper, -⟩ := plain
  have only : isBlank c = true ↔ c.toNat = 0x20 := by
    simp [Text.isBlank, blankRanges, inRanges]
    omega
  rw [only]
  exact Char.toNat_inj (d := ' ')

theorem isBlank_of_isDigit {c : Char} (digit : c.isDigit) : isBlank c = false := by
  rw [← Bool.not_eq_true, (isPlain_of_isDigit digit).isBlank_iff]
  rintro rfl
  cases digit

/-! ## Lower-casing -/

theorem lowercaseChar_of_isPlain {c : Char} (plain : IsPlain c) : lowercaseChar c = [c] := by
  obtain ⟨lower, upper, notCapital⟩ := plain
  have dotted : c ≠ '\u0130' := by
    rintro rfl
    exact absurd upper (by decide)
  -- the capitals are the first run of the table, and the second begins beyond ASCII
  have none : lowercaseShift lowercaseRuns c.toNat = none := by
    rw [lowercaseRuns, lowercaseShift]
    split_ifs with below inside
    · rfl
    · exact absurd ⟨Nat.le_of_not_lt below, inside.1⟩ notCapital
    · rw [lowercaseShift, if_pos (by omega)]
  rw [lowercaseChar, if_neg dotted, none]

theorem lowercase_of_isPlain {cs : List Char} (plain : ∀ c ∈ cs, IsPlain c) :
    lowercase cs = cs := by
  suffices ∀ before, lowercaseAfter before cs = cs from this []
  induction cs with
  | nil => exact fun _ => rfl
  | cons c cs ih =>
    intro before
    have here := plain c List.mem_cons_self
    have sigma : c ≠ '\u03A3' := by
      rintro rfl
      exact absurd here (by decide)
    rw [lowercaseAfter, if_neg sigma, lowercaseChar_of_isPlain here,
      ih (fun d inside => plain d (List.mem_cons_of_mem _ inside))]
    rfl

theorem exists_run_of_lowercaseShift {runs : List (ℕ × ℕ × ℕ × ℤ)} {n : ℕ} {shift : ℤ}
    (found : lowercaseShift runs n = some shift) :
    ∃ run ∈ runs, run.1 ≤ n ∧ n ≤ run.2.1 ∧ run.2.2.2 = shift := by
  induction runs with
  | nil => cases found
  | cons run runs ih =>
    obtain ⟨first, last, stride, shift'⟩ := run
    rw [lowercaseShift] at found
    split_ifs at found with below within
    · cases found
      exact ⟨_, List.mem_cons_self, Nat.le_of_not_lt below, within.1, rfl⟩
    · obtain ⟨run, inside, bounds⟩ := ih found
      exact ⟨run, List.mem_cons_of_mem _ inside, bounds⟩

/-- No run of letters becomes blanks. -/
theorem lowercaseRuns_apart : ∀ run ∈ lowercaseRuns, ∀ q ∈ blankRanges,
    run.2.1 + run.2.2.2 < q.1 ∨ q.2 < run.1 + run.2.2.2 := by decide +kernel

theorem isBlank_of_mem_lowercaseChar {c d : Char} (solid : isBlank c = false)
    (inside : d ∈ lowercaseChar c) :
    isBlank d = false := by
  rw [lowercaseChar] at inside
  split_ifs at inside with dotted
  · exact forall_mem_of_all (p := fun d => isBlank d = false) (by decide) d inside
  · cases found : lowercaseShift lowercaseRuns c.toNat with
    | none =>
      rw [found, List.mem_singleton] at inside
      rwa [inside]
    | some shift =>
      rw [found, List.mem_singleton] at inside
      obtain ⟨run, among, lower, upper, rfl⟩ := exists_run_of_lowercaseShift found
      rw [← Bool.not_eq_true, isBlank, inside, Char.toNat_ofNat]
      intro blank
      split_ifs at blank
      · obtain ⟨q, range, lower', upper'⟩ := exists_range_of_inRanges blank
        have apart := lowercaseRuns_apart run among q range
        have positive : ∀ q ∈ blankRanges, 0 < q.1 := by decide
        have := positive q range
        omega
      · exact absurd blank (by decide)

theorem lowercaseChar_ne_nil (c : Char) : lowercaseChar c ≠ [] := by
  rw [lowercaseChar]
  split_ifs
  · exact List.cons_ne_nil _ _
  · cases lowercaseShift lowercaseRuns c.toNat <;> exact List.cons_ne_nil _ _

theorem head_lowercase {cs : List Char} (solid : ∀ c ∈ cs.head?, isBlank c = false) :
    ∀ c ∈ (lowercase cs).head?, isBlank c = false := by
  cases cs with
  | nil => simp [lowercase, lowercaseAfter]
  | cons c cs =>
    intro d first
    rw [lowercase, lowercaseAfter] at first
    split_ifs at first
    · cases first
      decide
    · cases first
      decide
    · rw [List.head?_append_of_ne_nil _ (lowercaseChar_ne_nil c)] at first
      exact isBlank_of_mem_lowercaseChar (solid c rfl) (List.mem_of_mem_head? first)

/-! ## Runs of characters -/

theorem head_dropWhile {p : Char → Bool} {cs : List Char} :
    ∀ c ∈ (cs.dropWhile p).head?, p c = false := by
  intro c first
  have := List.head?_dropWhile_not p cs
  rw [Option.mem_def.1 first] at this
  simpa using this

theorem takeWhile_of_head {p : Char → Bool} {rest : List Char}
    (stops : ∀ c ∈ rest.head?, p c = false) :
    rest.takeWhile p = [] ∧ rest.dropWhile p = rest := by
  cases rest with
  | nil => exact ⟨rfl, rfl⟩
  | cons c rest => simp [stops c rfl]

theorem takeWhile_append_of_head {p : Char → Bool} (cs : List Char) {rest : List Char}
    (stops : ∀ c ∈ rest.head?, p c = false) :
    (cs ++ rest).takeWhile p = cs.takeWhile p ∧
    (cs ++ rest).dropWhile p = cs.dropWhile p ++ rest := by
  induction cs with
  | nil => exact takeWhile_of_head stops
  | cons c cs ih =>
    cases goes : p c with
    | false => simp [goes]
    | true => simpa [goes] using ih

/-! ## Trimming -/

/-- A text with no blank at either end. -/
structure Bare (cs : List Char) : Prop where
  head : ∀ c ∈ cs.head?, isBlank c = false
  last : ∀ c ∈ cs.getLast?, isBlank c = false

theorem Bare.of_forall {cs : List Char} (solid : ∀ c ∈ cs, isBlank c = false) : Bare cs where
  head c inside := solid c (List.mem_of_mem_head? inside)
  last c inside := solid c (List.mem_of_mem_getLast? inside)

theorem Bare.append {cs ds : List Char} (first : Bare cs) (second : Bare ds) (some : cs ≠ [])
    (some' : ds ≠ []) (between : List Char) : Bare (cs ++ between ++ ds) where
  head c here := by
    rw [List.append_assoc, List.head?_append_of_ne_nil _ some] at here
    exact first.head c here
  last c here := by
    rw [List.getLast?_append_of_ne_nil _ some'] at here
    exact second.last c here

theorem trim_pad (before after : List Char) {cs : List Char} (bare : Bare cs)
    (left : ∀ c ∈ before, isBlank c) (right : ∀ c ∈ after, isBlank c) :
    trim (before ++ cs ++ after) = cs := by
  have start : trimStart (before ++ cs ++ after) = trimStart (cs ++ after) := by
    rw [trimStart, List.append_assoc, List.dropWhile_append_of_pos left, trimStart]
  rw [trim, start]
  cases cs with
  | nil =>
    have all : after.dropWhile isBlank = [] := List.dropWhile_eq_nil_iff.2 right
    simp [trimStart, trimEnd, all]
  | cons c cs =>
    have stays : trimStart (c :: cs ++ after) = c :: cs ++ after :=
      (takeWhile_of_head (by simpa using bare.head c rfl)).2
    rw [stays, trimEnd, List.reverse_append,
      List.dropWhile_append_of_pos fun d inside => right d (List.mem_reverse.1 inside),
      (takeWhile_of_head (by simpa only [List.head?_reverse] using bare.last)).2,
        List.reverse_reverse]

theorem trim_of_bare {cs : List Char} (bare : Bare cs) : trim cs = cs := by
  simpa using trim_pad [] [] bare (by simp) (by simp)

/-! ## Cutting -/

theorem cutAtPair_eq_none_iff {a b : Char} {cs : List Char} :
    cutAtPair a b cs = none ↔ ¬[a, b] <:+: cs := by
  induction cs with
  | nil => simp [cutAtPair]
  | cons c cs ih =>
    cases cs with
    | nil => simp [cutAtPair, List.infix_cons_iff]
    | cons d cs =>
      have starts : [a, b] <+: c :: d :: cs ↔ c = a ∧ d = b := by
        simp [List.cons_prefix_cons, eq_comm]
      rw [List.infix_cons_iff, starts, cutAtPair]
      split_ifs with here
      · simp [here]
      · rw [Option.map_eq_none_iff, ih, or_iff_right here]

theorem cutAtPair_eq_some_iff {a b : Char} {cs before after : List Char} :
    cutAtPair a b cs = some (before, after) ↔
      cs = before ++ a :: b :: after ∧ ¬[a, b] <:+: before ++ [a] := by
  constructor
  · intro cut
    refine ⟨cutAtPair_eq_some cut, ?_⟩
    induction cs generalizing before with
    | nil => cases cut
    | cons c cs ih =>
      cases cs with
      | nil => cases cut
      | cons d cs =>
        rw [cutAtPair] at cut
        split_ifs at cut with here
        · cases cut
          simp [List.infix_cons_iff]
        · obtain ⟨⟨rest, _⟩, later, same⟩ := Option.map_eq_some_iff.1 cut
          cases same
          rw [List.cons_append, List.infix_cons_iff, not_or]
          refine ⟨?_, ih later⟩
          -- what follows `c` there is `d`
          have next : (rest ++ [a]).head? = some d := by
            have whole := congrArg List.head? (cutAtPair_eq_some later)
            cases rest <;> simpa using whole.symm
          intro starts
          obtain ⟨same, more, rest_eq⟩ := List.cons_prefix_cons.1 starts
          rw [← rest_eq] at next
          cases next
          exact here ⟨same.symm, rfl⟩
  · rintro ⟨rfl, first⟩
    induction before with
    | nil => simp [cutAtPair]
    | cons c before ih =>
      rw [List.cons_append, List.infix_cons_iff, not_or] at first
      have rest := ih first.2
      cases before with
      | nil =>
        have differ : ¬(c = a ∧ a = b) := fun here => first.1 (by simp [here.1, ← here.2])
        rw [List.nil_append] at rest
        rw [List.cons_append, List.nil_append, cutAtPair, if_neg differ, rest]
        rfl
      | cons d before =>
        have differ : ¬(c = a ∧ d = b) := fun here => first.1 (by simp [here.1, here.2])
        rw [List.cons_append, List.cons_append, cutAtPair, if_neg differ, ← List.cons_append, rest]
        rfl

/-- A cut finds the first place of a pair if its second character does not come before. -/
theorem cutAtPair_append {a b : Char} (differ : a ≠ b) {before : List Char} (first : b ∉ before)
    (after : List Char) : cutAtPair a b (before ++ a :: b :: after) = some (before, after) := by
  refine cutAtPair_eq_some_iff.2 ⟨rfl, fun earlier => ?_⟩
  have inside : b ∈ before ++ [a] := earlier.subset (by simp)
  rcases List.mem_append.1 inside with inside | last
  · exact first inside
  · exact differ (List.mem_singleton.1 last).symm

theorem cutWhere_append {p : Char → Bool} {before : List Char}
    (free : ∀ c ∈ before, p c = false) {c : Char} (found : p c = true) (after : List Char) :
    cutWhere p (before ++ c :: after) = some (before, after) := by
  have keeps : ∀ d ∈ before, (!p d) = true := fun d inside => by rw [free d inside]; rfl
  rw [cutWhere, List.dropWhile_append_of_pos keeps, List.takeWhile_append_of_pos keeps]
  simp [found]

theorem cutWhere_eq_some_iff {p : Char → Bool} {cs before after : List Char} :
    cutWhere p cs = some (before, after) ↔
      (∀ c ∈ before, p c = false) ∧ ∃ c, p c = true ∧ cs = before ++ c :: after := by
  constructor
  · intro cut
    unfold cutWhere at cut
    split at cut
    · cases cut
    · next c after' rest =>
      cases cut
      refine ⟨fun d inside => by simpa using List.mem_takeWhile_imp inside, c, ?_, ?_⟩
      · have first : c ∈ (cs.dropWhile fun c => !p c).head? := by rw [rest]; rfl
        simpa using head_dropWhile c first
      · rw [← rest, List.takeWhile_append_dropWhile]
  · rintro ⟨free, c, found, rfl⟩
    exact cutWhere_append free found after

/-! ## Comments -/

/-- Every slash is followed by a blank, so that no two of them make a comment. -/
def SlashSpaced (cs : List Char) : Prop :=
  ∀ before after, cs = before ++ '/' :: after → after.head? = some ' '

theorem SlashSpaced.of_not_mem {cs : List Char} (none : '/' ∉ cs) : SlashSpaced cs := by
  rintro before after rfl
  simp at none

theorem SlashSpaced.append {cs ds : List Char} (first : SlashSpaced cs) (second : SlashSpaced ds) :
    SlashSpaced (cs ++ ds) := by
  intro before after same
  rcases List.append_eq_append_iff.1 same with ⟨as, -, inSecond⟩ | ⟨bs, inFirst, rest⟩
  · exact second as after inSecond
  · cases bs with
    | nil => exact second [] after rest.symm
    | cons c bs =>
      obtain ⟨rfl, rfl⟩ := List.cons.inj rest
      have spaced := first before bs inFirst
      cases bs with
      | nil => cases spaced
      | cons d bs => exact spaced

theorem SlashSpaced.cutAtPair {cs : List Char} (spaced : SlashSpaced cs) :
    cutAtPair '/' '/' cs = none := by
  apply cutAtPair_eq_none_iff.2
  rintro ⟨before, after, same⟩
  cases spaced before ('/' :: after) (by simp [← same])

/-! ## Lines -/

theorem splitOn_lines {ls : List (List Char)} (single : ∀ l ∈ ls, '\n' ∉ l) :
    (ls.flatMap (· ++ ['\n'])).splitOn '\n' = ls ++ [[]] := by
  induction ls with
  | nil => rfl
  | cons l ls ih =>
    rw [List.flatMap_cons, List.append_assoc, List.singleton_append,
      List.splitOn_append_cons_self_of_not_mem (single l List.mem_cons_self),
      ih fun l inside => single l (List.mem_cons_of_mem _ inside)]
    rfl

end CellularAutomaton.Text
