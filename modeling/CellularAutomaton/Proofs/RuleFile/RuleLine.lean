import CellularAutomaton.Proofs.Expr.RoundTrip
import CellularAutomaton.Proofs.RuleFile.LineGrammar
import CellularAutomaton.RuleFile.Printer

/-!
# Printed rule lines

What is printed of a rule is a line that the grammar allows for this rule. It consists of plain
characters without a comment among them, so nothing is lost before it is read.
-/

namespace CellularAutomaton

open Text

/-! ## Lines -/

namespace Text

/-- A plain character that is neither a blank nor a slash. -/
def IsSolid (c : Char) : Prop := IsPlain c ∧ c ≠ ' ' ∧ c ≠ '/'

instance : DecidablePred IsSolid := fun _ => inferInstanceAs (Decidable (_ ∧ _))

theorem isSolid_of_isDigit {c : Char} (digit : c.isDigit) : IsSolid c := by
  refine ⟨isPlain_of_isDigit digit, ?_, ?_⟩ <;>
  · rintro rfl
    cases digit

theorem IsSolid.isBlank {c : Char} (solid : IsSolid c) : isBlank c = false := by
  rw [← Bool.not_eq_true, solid.1.isBlank_iff]
  exact solid.2.1

/-- A line that is read as it is written. -/
structure IsLine (cs : List Char) : Prop where
  plain : ∀ c ∈ cs, IsPlain c
  slashes : SlashSpaced cs
  bare : Bare cs

namespace IsLine

theorem single {cs : List Char} (line : IsLine cs) : '\n' ∉ cs := by
  intro inside
  exact absurd (line.plain _ inside) (by decide)

theorem of_bare {cs : List Char} (bare : Bare cs) (plain : ∀ c ∈ cs, IsPlain c ∧ c ≠ '/') :
    IsLine cs where
  plain c inside := (plain c inside).1
  slashes := .of_not_mem fun inside => (plain _ inside).2 rfl
  bare := bare

theorem of_solid {cs : List Char} (solid : ∀ c ∈ cs, IsSolid c) : IsLine cs :=
  .of_bare (.of_forall fun c inside => (solid c inside).isBlank) fun c inside =>
    ⟨(solid c inside).1, (solid c inside).2.2⟩

end IsLine

end Text

theorem isLine_arrow {source target : List Char} (first : IsLine source) (second : IsLine target)
    (some : source ≠ []) (some' : target ≠ []) : IsLine (source ++ arrow ++ target) where
  plain := by
    have between : ∀ c ∈ arrow, IsPlain c := forall_mem_of_all (by decide)
    exact List.forall_mem_append.2 ⟨List.forall_mem_append.2 ⟨first.plain, between⟩, second.plain⟩
  slashes := (first.slashes.append (.of_not_mem (by decide))).append second.slashes
  bare := first.bare.append second.bare some some' _

/-! ## Printed numbers -/

namespace Numeral

theorem isSolid_of_mem_natural {n : ℕ} : ∀ c ∈ natural n, IsSolid c := fun _ inside =>
  isSolid_of_isDigit (isDigit_of_mem_natural inside)

theorem isSolid_of_mem_integer {n : ℤ} : ∀ c ∈ integer n, IsSolid c := by
  intro c inside
  rcases mem_integer inside with rfl | digit
  · decide
  · exact isSolid_of_isDigit digit

end Numeral

namespace State

theorem isLine_print (s : State) : IsLine s.print := .of_solid Numeral.isSolid_of_mem_integer

theorem reads_print (s : State) : Reads Numeral.readInt32? s.print s :=
  .of_bare s.isLine_print.bare (Numeral.readInt32?_integer s)

theorem reads_blank_print (s : State) : Reads Numeral.readInt32? (' ' :: s.print) s :=
  s.reads_print.cons rfl

end State

/-! ## Printed expressions -/

namespace Expr

theorem isPlain_of_mem_print {e : Expr} {c : Char} (inside : c ∈ e.print) : IsPlain c := by
  induction e with
  | literal n => exact (Numeral.isSolid_of_mem_integer c inside).1
  | var =>
    rw [List.mem_singleton.1 inside]
    decide
  | neg e ih =>
    rcases List.mem_cons.1 inside with rfl | inside
    · decide
    · exact ih inside
  | binary op l r ihl ihr =>
    have symbol : IsPlain op.symbol := by cases op <;> decide
    simp only [print, List.mem_cons, List.mem_append, List.cons_append, List.not_mem_nil,
      or_false] at inside
    rcases inside with rfl | (inside | rfl | rfl | rfl | inside) | rfl
    · decide
    · exact ihl inside
    · decide
    · exact symbol
    · decide
    · exact ihr inside
    · decide

theorem print_ne_nil (e : Expr) : e.print ≠ [] := by
  cases e <;> simp [print, Numeral.integer_ne_nil]

theorem bare_print (e : Expr) : Bare e.print := by
  induction e with
  | literal n => exact (IsLine.of_solid Numeral.isSolid_of_mem_integer).bare
  | var => exact .of_forall (forall_mem_of_all (by decide))
  | neg e ih =>
    refine ⟨?_, fun c last => ih.last c ?_⟩
    · intro c first
      cases first
      decide
    · rwa [print, List.getLast?_cons_of_ne_nil e.print_ne_nil] at last
  | binary op l r =>
    refine ⟨?_, ?_⟩
    · intro c first
      cases first
      decide
    · intro c last
      rw [print, List.getLast?_concat] at last
      cases last
      decide

theorem slashSpaced_print (e : Expr) : SlashSpaced e.print := by
  induction e with
  | literal n => exact (IsLine.of_solid Numeral.isSolid_of_mem_integer).slashes
  | var => exact .of_not_mem (by decide)
  | neg e ih => exact SlashSpaced.append (.of_not_mem (by decide : '/' ∉ ['-'])) ih
  | binary op l r ihl ihr =>
    have middle : SlashSpaced [' ', op.symbol, ' '] := by
      cases op with
      | div =>
        intro before after same
        rcases before with _ | ⟨b, _ | ⟨c, _ | ⟨d, before⟩⟩⟩ <;> simp at same
        obtain ⟨-, -, rfl⟩ := same
        rfl
      | _ => exact .of_not_mem (by decide)
    have all : (Expr.binary op l r).print = ['('] ++ l.print ++ [' ', op.symbol, ' '] ++
        r.print ++ [')'] := by
      simp [print]
    rw [all]
    exact ((((SlashSpaced.of_not_mem (by decide)).append ihl).append middle).append ihr).append
      (.of_not_mem (by decide))

theorem isLine_print (e : Expr) : IsLine e.print :=
  ⟨fun _ => isPlain_of_mem_print, slashSpaced_print e, bare_print e⟩

end Expr

/-! ## Rule lines -/

namespace NeighborRule

def printedCondition (r : NeighborRule) : List Char :=
  r.comparison.keyword ++ ' ' ::
    (Numeral.natural r.threshold.toNat ++ ':' :: ' ' :: r.neighbor.print ++
    match r.source with
    | some s => ':' :: ' ' :: s.print
    | none => [])

theorem print_eq (r : NeighborRule) : r.print = r.printedCondition ++ arrow ++ r.target.print := by
  cases source : r.source <;> simp [print, printedCondition, source]

theorem isLine_printedCondition (r : NeighborRule) : IsLine r.printedCondition := by
  have keyword : ∀ c ∈ r.comparison.keyword, IsSolid c :=
    forall_mem_of_all (by cases r.comparison <;> decide)
  have some : r.comparison.keyword ≠ [] := by cases r.comparison <;> decide
  have slashFree : ∀ cs : List Char, (∀ c ∈ cs, IsSolid c) → ∀ c ∈ cs, IsPlain c ∧ c ≠ '/' :=
    fun cs solid c inside => ⟨(solid c inside).1, (solid c inside).2.2⟩
  have blank : IsPlain ' ' ∧ ' ' ≠ '/' := by decide
  have colon : IsPlain ':' ∧ ':' ≠ '/' := by decide
  have threshold := slashFree _ (Numeral.isSolid_of_mem_natural (n := r.threshold.toNat))
  have state := fun s : State => slashFree s.print Numeral.isSolid_of_mem_integer
  have bareKeyword := (IsLine.of_solid keyword).bare
  rw [printedCondition]
  cases r.source with
  | none =>
    refine .of_bare ?_ ?_
    · have ends := bareKeyword.append r.neighbor.isLine_print.bare some (Numeral.integer_ne_nil _)
        (' ' :: (Numeral.natural r.threshold.toNat ++ [':', ' ']))
      simpa using ends
    · simp only [List.forall_mem_append, List.forall_mem_cons]
      exact ⟨slashFree _ keyword, blank, ⟨threshold, colon, blank, state _⟩, by simp⟩
  | some s =>
    refine .of_bare ?_ ?_
    · have ends := bareKeyword.append s.isLine_print.bare some (Numeral.integer_ne_nil _)
        (' ' :: (Numeral.natural r.threshold.toNat ++ ':' :: ' ' :: r.neighbor.print ++ [':', ' ']))
      simpa using ends
    · simp only [List.forall_mem_append, List.forall_mem_cons]
      exact ⟨slashFree _ keyword, blank, ⟨threshold, colon, blank, state _⟩, colon, blank, state s⟩

end NeighborRule

namespace RuleLine

def print : RuleLine → List Char
  | simple r => r.print
  | neighbor r => r.print
  | fallback e => defaultKeyword ++ arrow ++ e.print

theorem isLine_print (rule : RuleLine) : IsLine rule.print := by
  cases rule with
  | simple r =>
    exact isLine_arrow r.source.isLine_print r.target.isLine_print (Numeral.integer_ne_nil _)
      (Numeral.integer_ne_nil _)
  | neighbor r =>
    rw [print, r.print_eq]
    have some : r.printedCondition ≠ [] := by simp [NeighborRule.printedCondition]
    exact isLine_arrow r.isLine_printedCondition r.target.isLine_print some
      (Numeral.integer_ne_nil _)
  | fallback e =>
    have keyword : IsLine defaultKeyword := .of_solid (forall_mem_of_all (by decide))
    exact isLine_arrow keyword e.isLine_print (by decide) e.print_ne_nil

theorem written_print {rule : RuleLine} (canonical : ∀ e, rule = .fallback e → e.Canonical) :
    Written rule.print rule := by
  have blank : ∀ c ∈ [' '], isBlank c := forall_mem_of_all (by decide)
  cases rule with
  | simple r =>
    have text : r.print = (r.source.print ++ [' ']) ++ '-' :: '>' :: ' ' :: r.target.print := by
      simp [SimpleRule.print, arrow]
    rw [print, text]
    exact .simple (r.source.reads_print.append blank) r.target.reads_blank_print
  | neighbor r =>
    obtain ⟨c, u, n, source, t⟩ := r
    have threshold : Reads Numeral.readUInt32? (Numeral.natural u.toNat) u :=
      .of_bare (IsLine.of_solid Numeral.isSolid_of_mem_natural).bare (Numeral.readUInt32?_natural u)
    cases source with
    | none =>
      have text : print (.neighbor ⟨c, u, n, none, t⟩) = c.keyword ++
          ' ' :: (Numeral.natural u.toNat ++ ':' :: (' ' :: n.print ++ [' '])) ++ '-' :: '>' ::
            ' ' :: t.print := by
        simp [print, NeighborRule.print, arrow]
      rw [text]
      exact .neighbor rfl threshold (n.reads_blank_print.append blank) t.reads_blank_print
    | some s =>
      have text : print (.neighbor ⟨c, u, n, some s, t⟩) = c.keyword ++
          ' ' :: (Numeral.natural u.toNat ++ ':' :: ' ' :: n.print ++ ':' ::
            (' ' :: s.print ++ [' '])) ++
            '-' :: '>' :: ' ' :: t.print := by
        simp [print, NeighborRule.print, arrow]
      rw [text]
      exact .neighborFrom rfl threshold n.reads_blank_print (s.reads_blank_print.append blank)
        t.reads_blank_print
  | fallback e =>
    obtain ⟨ts, lexes, derives⟩ := Expr.ofChars_eq_ok_iff.1 (Expr.ofChars_print (canonical e rfl))
    have text : print (.fallback e) = defaultKeyword ++ [' '] ++ '-' :: '>' :: ' ' :: e.print := by
      simp [print, arrow]
    rw [text]
    exact .fallback blank (.blank rfl lexes) derives

end RuleLine

end CellularAutomaton
