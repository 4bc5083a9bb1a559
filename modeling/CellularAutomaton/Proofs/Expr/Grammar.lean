import CellularAutomaton.Expr.Parser
import CellularAutomaton.Proofs.Expr.Lexing
import CellularAutomaton.Proofs.Outcome

/-!
# The grammar of expressions

A sum is built from products, a product from operands with minus signs before them, and an operand
is a number, the variable, or a sum between parentheses. The parser takes a derivation for what it
derives, whatever is pending, and what it has read so far always consists of derivations with the
operators between them. So it accepts the texts whose tokens have a derivation, and makes the tree
of it.
-/

namespace CellularAutomaton

namespace Expr

def opposite : Expr → Expr
  | literal n => literal (-n)
  | e => neg e

/-- The trees that the parser makes. A minus sign before a literal makes another literal, never the
smallest integer, which no literal is the opposite of. -/
def Canonical : Expr → Prop
  | literal n => n ≠ Int64.minValue
  | var => True
  | neg e => (∀ n, e ≠ literal n) ∧ e.Canonical
  | binary _ l r => l.Canonical ∧ r.Canonical

theorem Canonical.opposite {e : Expr} (canonical : e.Canonical) : e.opposite.Canonical := by
  cases e with
  | literal n =>
    intro smallest
    apply canonical
    rw [← Int64.neg_neg (a := n), smallest]
    rfl
  | var => exact ⟨fun n same => (by cases same), trivial⟩
  | neg e => exact ⟨fun n same => (by cases same), canonical⟩
  | binary op l r => exact ⟨fun n same => (by cases same), canonical⟩

theorem Canonical.negate_eq {e : Expr} (canonical : e.Canonical) : e.negate = .ok e.opposite := by
  cases e with
  | literal n => exact if_neg canonical
  | var => rfl
  | neg e => rfl
  | binary op l r => rfl

theorem opposite_of_negate {e f : Expr} (negated : e.negate = .ok f) : f = e.opposite := by
  cases e with
  | literal n =>
    simp only [negate] at negated
    split_ifs at negated
    cases negated
    rfl
  | var => cases negated; rfl
  | neg e => cases negated; rfl
  | binary op l r => cases negated; rfl

theorem Canonical.exists_negations_eq {e : Expr} (canonical : e.Canonical) (n : ℕ) :
    ∃ f, negations n e = .ok f := by
  induction n generalizing e with
  | zero => exact ⟨e, rfl⟩
  | succ n ih =>
    rw [negations, canonical.negate_eq]
    exact ih canonical.opposite

end Expr

def Operator.Additive (o : Operator) : Prop := o = .add ∨ o = .sub

def Operator.Multiplicative (o : Operator) : Prop := o = .mul ∨ o = .div

inductive Nonterminal
  | sum
  | product
  | unary
  | primary

/-- The nonterminal derives the tokens, and this derivation has the tree. -/
inductive Derives : Nonterminal → List Token → Expr → Prop
  | ofProduct {ts : List Token} {e : Expr} (product : Derives .product ts e) : Derives .sum ts e
  | additive {o : Operator} {ts us : List Token} {l r : Expr} (kind : o.Additive)
      (left : Derives .sum ts l) (right : Derives .product us r) :
      Derives .sum (ts ++ .op o :: us) (.binary o l r)
  | ofUnary {ts : List Token} {e : Expr} (unary : Derives .unary ts e) : Derives .product ts e
  | multiplicative {o : Operator} {ts us : List Token} {l r : Expr} (kind : o.Multiplicative)
      (left : Derives .product ts l) (right : Derives .unary us r) :
      Derives .product (ts ++ .op o :: us) (.binary o l r)
  | minus {ts : List Token} {e : Expr} (operand : Derives .unary ts e) :
      Derives .unary (.op .sub :: ts) e.opposite
  | ofPrimary {ts : List Token} {e : Expr} (primary : Derives .primary ts e) : Derives .unary ts e
  | number (n : Int64) : Derives .primary [.number n] (.literal n)
  | var : Derives .primary [.var] .var
  | parentheses {ts : List Token} {e : Expr} (inner : Derives .sum ts e) :
      Derives .primary (.leftParen :: ts ++ [.rightParen]) e

/-- The numbers among the tokens have an opposite. -/
def Opposable (ts : List Token) : Prop := ∀ n, .number n ∈ ts → n ≠ Int64.minValue

theorem opposable_append {ts us : List Token} :
    Opposable (ts ++ us) ↔ Opposable ts ∧ Opposable us := by
  simp only [Opposable, List.mem_append, or_imp, forall_and]

theorem Opposable.of_cons {t : Token} {ts : List Token} (opposable : Opposable (t :: ts)) :
    Opposable ts :=
  fun n inside => opposable n (List.mem_cons_of_mem _ inside)

variable {v : Nonterminal} {ts us : List Token} {e : Expr}

theorem Derives.canonical (derives : Derives v ts e) (opposable : Opposable ts) : e.Canonical := by
  induction derives with
  | ofProduct _ ih => exact ih opposable
  | additive _ _ _ ihl ihr =>
    obtain ⟨left, right⟩ := opposable_append.1 opposable
    exact ⟨ihl left, ihr right.of_cons⟩
  | ofUnary _ ih => exact ih opposable
  | multiplicative _ _ _ ihl ihr =>
    obtain ⟨left, right⟩ := opposable_append.1 opposable
    exact ⟨ihl left, ihr right.of_cons⟩
  | minus _ ih => exact (ih opposable.of_cons).opposite
  | ofPrimary _ ih => exact ih opposable
  | number n => exact opposable n List.mem_cons_self
  | var => trivial
  | parentheses _ ih => exact ih (opposable_append.1 opposable).1.of_cons

/-! ## The parser takes a derivation for what it derives -/

namespace ParserState

theorem run_cons (s : ParserState) (t : Token) (ts : List Token) :
    s.run (t :: ts) = (s.next t).bind fun s' => s'.run ts := rfl

theorem run_map {α : Type} (x : Except ExprError α) (f : α → ParserState) (ts : List Token) :
    ((x.map f).bind fun s => s.run ts) = x.bind fun a => (f a).run ts := by cases x <;> rfl

/-- How the parser goes over the tokens of an expression. -/
def Takes : Nonterminal → List Token → Expr → Prop
  | .sum, ts, e => ∀ outer rest, ∃ sum r, sum.close r = e ∧
      (operand .start outer).run (ts ++ rest) = (operator sum r outer).run rest
  | .product, ts, e => ∀ sum outer rest,
      (operand ⟨sum, none, 0⟩ outer).run (ts ++ rest) = (operator sum e outer).run rest
  | .unary, ts, e | .primary, ts, e => ∀ p outer rest,
      (operand p outer).run (ts ++ rest) = (p.closeProduct e).bind fun q =>
        (operator p.sum q outer).run rest

end ParserState

open ParserState

theorem Pending.closeProduct_minus (p : Pending) (canonical : e.Canonical) :
    closeProduct { p with minuses := p.minuses + 1 } e = p.closeProduct e.opposite := by
  rw [closeProduct, Expr.negations, canonical.negate_eq]
  rfl

theorem Expr.Canonical.exists_closeProduct (canonical : e.Canonical) (p : Pending) :
    ∃ q, p.closeProduct e = .ok q := by
  obtain ⟨f, negated⟩ := canonical.exists_negations_eq p.minuses
  exact ⟨_, by rw [Pending.closeProduct, negated]; rfl⟩

theorem Derives.takes (derives : Derives v ts e) (opposable : Opposable ts) : Takes v ts e := by
  induction derives with
  | @ofProduct ts e _ ih =>
    intro outer rest
    exact ⟨none, e, rfl, ih opposable none outer rest⟩
  | @additive o ts us l r kind _ _ ihl ihr =>
    obtain ⟨left, right⟩ := opposable_append.1 opposable
    intro outer rest
    obtain ⟨sum, last, same, first⟩ := ihl left outer (.op o :: (us ++ rest))
    have second := ihr right.of_cons (some (l, o)) outer rest
    refine ⟨some (l, o), r, rfl, ?_⟩
    rw [List.append_assoc, List.cons_append, first, ← second, ← same]
    rcases kind with rfl | rfl <;> rfl
  | ofUnary _ ih =>
    intro sum outer rest
    exact ih opposable ⟨sum, none, 0⟩ outer rest
  | @multiplicative o ts us l r kind _ _ ihl ihr =>
    obtain ⟨left, right⟩ := opposable_append.1 opposable
    intro sum outer rest
    have first := ihl left sum outer (.op o :: (us ++ rest))
    have second := ihr right.of_cons ⟨sum, some (l, o), 0⟩ outer rest
    rw [List.append_assoc, List.cons_append, first]
    refine Eq.trans ?_ second
    rcases kind with rfl | rfl <;> rfl
  | @minus ts e operand ih =>
    intro p outer rest
    have after := ih opposable.of_cons { p with minuses := p.minuses + 1 } outer rest
    rw [p.closeProduct_minus (operand.canonical opposable.of_cons)] at after
    exact after
  | ofPrimary _ ih => exact ih opposable
  | number n =>
    intro p outer rest
    exact run_map _ _ _
  | var =>
    intro p outer rest
    exact run_map _ _ _
  | @parentheses ts e _ ih =>
    intro p outer rest
    obtain ⟨sum, last, same, within⟩ :=
      ih (opposable_append.1 opposable).1.of_cons (p :: outer) (.rightParen :: rest)
    have cut : .leftParen :: ts ++ [.rightParen] ++ rest =
      .leftParen :: (ts ++ .rightParen :: rest) := by simp
    rw [cut, run_cons]
    refine within.trans ?_
    rw [run_cons, ← same]
    exact run_map _ _ _

/-! ## What the parser has read consists of derivations -/

/-- The tokens of a left operand with its operator. -/
def Waiting.Spelled (v : Nonterminal) (kind : Operator → Prop) : Waiting → List Token → Prop
  | none, ts => ts = []
  | some (l, o), ts => kind o ∧ ∃ us, Derives v us l ∧ ts = us ++ [.op o]

/-- The tokens since the last parenthesis that is open. -/
def Pending.Spelled (p : Pending) (ts : List Token) : Prop :=
  ∃ as bs, Waiting.Spelled .sum Operator.Additive p.sum as ∧
    Waiting.Spelled .product Operator.Multiplicative p.product bs ∧
    ts = as ++ bs ++ List.replicate p.minuses (.op .sub)

def Pending.Opened : List Pending → List Token → Prop
  | [], ts => ts = []
  | p :: outer, ts => ∃ us vs, Opened outer us ∧ p.Spelled vs ∧ ts = us ++ vs ++ [.leftParen]

/-- The tokens that have been read amount to the state. -/
def ParserState.Spelled : ParserState → List Token → Prop
  | operand p outer, ts => ∃ us vs, Pending.Opened outer us ∧ p.Spelled vs ∧ ts = us ++ vs
  | operator sum e outer, ts => ∃ us as bs, Pending.Opened outer us ∧
      Waiting.Spelled .sum Operator.Additive sum as ∧ Derives .product bs e ∧ ts = us ++ as ++ bs

theorem Derives.negations {n : ℕ} {f : Expr} (operand : Derives .unary ts e)
    (negated : Expr.negations n e = .ok f) :
    Derives .unary (List.replicate n (.op .sub) ++ ts) f := by
  induction n generalizing ts e with
  | zero =>
    cases negated
    exact operand
  | succ n ih =>
    rw [Expr.negations] at negated
    obtain ⟨e', first, rest⟩ := bind_eq_ok.1 negated
    obtain rfl := Expr.opposite_of_negate first
    rw [List.replicate_succ', List.append_assoc]
    exact ih (.minus operand) rest

theorem Waiting.Spelled.closeSum {w : Waiting}
    (spelled : Waiting.Spelled .sum Operator.Additive w ts) (product : Derives .product us e) :
    Derives .sum (ts ++ us) (w.close e) := by
  cases w with
  | none =>
    cases spelled
    exact .ofProduct product
  | some p =>
    obtain ⟨kind, ls, left, rfl⟩ := spelled
    rw [List.append_assoc]
    exact .additive kind left product

theorem Waiting.Spelled.closeProduct {w : Waiting}
    (spelled : Waiting.Spelled .product Operator.Multiplicative w ts)
    (unary : Derives .unary us e) :
    Derives .product (ts ++ us) (w.close e) := by
  cases w with
  | none =>
    cases spelled
    exact .ofUnary unary
  | some p =>
    obtain ⟨kind, ls, left, rfl⟩ := spelled
    rw [List.append_assoc]
    exact .multiplicative kind left unary

namespace ParserState

variable {s s' : ParserState} {t : Token}

theorem Spelled.start : ParserState.start.Spelled [] := ⟨[], [], rfl, ⟨[], [], rfl, rfl, rfl⟩, rfl⟩

/-- An operand ends the product that waits for it. -/
theorem Spelled.close {p : Pending} {outer : List Pending} {q : Expr}
    (spelled : (operand p outer).Spelled ts) (unary : Derives .unary us e)
    (closed : p.closeProduct e = .ok q) :
    (operator p.sum q outer).Spelled (ts ++ us) := by
  obtain ⟨before, within, opened, ⟨as, bs, sum, product, rfl⟩, rfl⟩ := spelled
  obtain ⟨f, negated, rfl⟩ := map_eq_ok.1 closed
  refine ⟨before, as, _, opened, sum, product.closeProduct (unary.negations negated), ?_⟩
  simp only [List.append_assoc]

theorem Spelled.next (spelled : s.Spelled ts) (goes : s.next t = .ok s') :
    s'.Spelled (ts ++ [t]) := by
  cases s with
  | operand p outer =>
    cases t with
    | number n =>
      obtain ⟨q, closed, rfl⟩ := map_eq_ok.1 goes
      exact spelled.close (.ofPrimary (.number n)) closed
    | var =>
      obtain ⟨q, closed, rfl⟩ := map_eq_ok.1 goes
      exact spelled.close (.ofPrimary .var) closed
    | op o =>
      cases o <;> cases goes
      obtain ⟨before, within, opened, ⟨as, bs, sum, product, rfl⟩, rfl⟩ := spelled
      refine ⟨before, _, opened, ⟨as, bs, sum, product, rfl⟩, ?_⟩
      simp only [List.replicate_succ', List.append_assoc]
    | leftParen =>
      cases goes
      obtain ⟨before, within, opened, pending, rfl⟩ := spelled
      exact ⟨_, [], ⟨before, within, opened, pending, rfl⟩, ⟨[], [], rfl, rfl, rfl⟩,
        (List.append_nil _).symm⟩
    | rightParen => cases goes
  | operator sum e outer =>
    obtain ⟨before, as, bs, opened, waits, product, rfl⟩ := spelled
    have whole := waits.closeSum product
    cases t with
    | op o =>
      cases o <;> cases goes
      · exact ⟨before, _, opened, ⟨_, [], ⟨.inl rfl, _, whole, rfl⟩, rfl, rfl⟩, by simp⟩
      · exact ⟨before, _, opened, ⟨_, [], ⟨.inr rfl, _, whole, rfl⟩, rfl, rfl⟩, by simp⟩
      · exact ⟨before, _, opened, ⟨as, _, waits, ⟨.inl rfl, bs, product, rfl⟩, rfl⟩, by simp⟩
      · exact ⟨before, _, opened, ⟨as, _, waits, ⟨.inr rfl, bs, product, rfl⟩, rfl⟩, by simp⟩
    | rightParen =>
      cases outer with
      | nil => cases goes
      | cons p outer =>
        obtain ⟨q, closed, rfl⟩ := map_eq_ok.1 goes
        obtain ⟨far, near, opened, pending, rfl⟩ := opened
        have outside : (operand p outer).Spelled (far ++ near) := ⟨far, near, opened, pending, rfl⟩
        have inside := outside.close (.ofPrimary (.parentheses whole)) closed
        simpa using inside
    | number n => cases goes
    | var => cases goes
    | leftParen => cases goes

theorem Spelled.run (spelled : s.Spelled ts) (done : s.run us = .ok s') :
    s'.Spelled (ts ++ us) := by
  induction us generalizing s ts with
  | nil =>
    cases done
    rwa [List.append_nil]
  | cons t us ih =>
    obtain ⟨s₁, goes, rest⟩ := bind_eq_ok.1 done
    have after := ih (spelled.next goes) rest
    rwa [List.append_assoc] at after

theorem Spelled.result (spelled : s.Spelled ts) (found : s.result? = some e) :
    Derives .sum ts e := by
  unfold result? at found
  split at found
  · cases found
    obtain ⟨before, as, bs, rfl, waits, product, rfl⟩ := spelled
    exact waits.closeSum product
  · cases found

/-- A parenthesis can be closed where one is open: the parser never has to negate the smallest
integer. -/
theorem Spelled.exists_closeProduct {sum : Waiting} {p : Pending} {outer : List Pending}
    (spelled : (operator sum e (p :: outer)).Spelled ts) (opposable : Opposable ts) :
    ∃ q, p.closeProduct (sum.close e) = .ok q := by
  obtain ⟨before, as, bs, -, waits, product, rfl⟩ := spelled
  obtain ⟨known, last⟩ := opposable_append.1 opposable
  have inner : Opposable (as ++ bs) := opposable_append.2 ⟨(opposable_append.1 known).2, last⟩
  exact ((waits.closeSum product).canonical inner).exists_closeProduct p

/-- If the parser stops, then at a token that may not stand where it does. -/
theorem Spelled.next_error {x : ExprError} (spelled : s.Spelled ts)
    (opposable : Opposable (ts ++ [t])) (stops : s.next t = .error x) : x = .unexpectedToken t := by
  have closes : ∀ (p : Pending) (outer : List Pending) {e : Expr}, (∃ q, p.closeProduct e = .ok q) →
      (p.closeProduct e).map (operator p.sum · outer) ≠ .error x := by
    rintro p outer e ⟨q, closes⟩ failed
    rw [closes] at failed
    cases failed
  cases s with
  | operand p outer =>
    cases t with
    | number n =>
      have canonical : (Expr.literal n).Canonical := opposable n (by simp)
      exact absurd stops (closes p outer (canonical.exists_closeProduct p))
    | var =>
      have canonical : Expr.var.Canonical := trivial
      exact absurd stops (closes p outer (canonical.exists_closeProduct p))
    | op o => cases o <;> cases stops <;> rfl
    | leftParen => cases stops
    | rightParen => cases stops; rfl
  | operator sum e outer =>
    cases t with
    | op o => cases o <;> cases stops
    | rightParen =>
      cases outer with
      | nil => cases stops; rfl
      | cons p outer =>
        exact absurd stops (closes p outer
          (spelled.exists_closeProduct (opposable_append.1 opposable).1))
    | number n => cases stops; rfl
    | var => cases stops; rfl
    | leftParen => cases stops; rfl

theorem exists_of_run_error {x : ExprError} (stops : s.run us = .error x) :
    ∃ before t after s', us = before ++ t :: after ∧ s.run before = .ok s' ∧
      s'.next t = .error x := by
  induction us generalizing s with
  | nil => cases stops
  | cons t us ih =>
    rw [run_cons] at stops
    cases goes : s.next t with
    | error y =>
      rw [goes] at stops
      cases stops
      exact ⟨[], t, us, s, rfl, rfl, goes⟩
    | ok s₁ =>
      rw [goes] at stops
      obtain ⟨before, t', after, s', rfl, done, stops⟩ := ih stops
      refine ⟨t :: before, t', after, s', rfl, ?_, stops⟩
      rw [run_cons, goes]
      exact done

theorem Spelled.run_error {x : ExprError} (spelled : s.Spelled ts)
    (opposable : Opposable (ts ++ us)) (stops : s.run us = .error x) :
    ∃ t ∈ us, x = .unexpectedToken t := by
  obtain ⟨before, t, after, s', rfl, done, stops⟩ := exists_of_run_error stops
  rw [List.append_cons, ← List.append_assoc, ← List.append_assoc] at opposable
  exact ⟨t, by simp, (spelled.run done).next_error (opposable_append.1 opposable).1 stops⟩

end ParserState

/-! ## What is read from a text -/

namespace Expr

theorem opposable_of_lexes {cs : List Char} (lexes : Lexes cs ts) : Opposable ts := by
  have numbers := Scan.numbers cs
  rwa [Scan.ofChars_of_lexes lexes] at numbers

theorem ofScan_eq_ok_iff {s : Scan} (opposable : Opposable s.tokens) :
    ofScan s = .ok e ↔ s.stop = none ∧ Derives .sum s.tokens e := by
  constructor
  · intro read
    unfold ofScan at read
    split at read
    · cases read
    · cases read
    · next q done whole =>
      split at read
      · next found =>
        cases read
        exact ⟨whole, (ParserState.Spelled.start.run done).result found⟩
      · cases read
  · rintro ⟨whole, derives⟩
    obtain ⟨sum, last, same, done⟩ := derives.takes opposable [] []
    rw [List.append_nil] at done
    rw [ofScan, ParserState.start, done, whole]
    exact congrArg Except.ok same

theorem ofChars_eq_ok_iff {cs : List Char} :
    ofChars cs = .ok e ↔ ∃ ts, Lexes cs ts ∧ Derives .sum ts e := by
  rw [ofChars, ofScan_eq_ok_iff (Scan.numbers cs)]
  constructor
  · rintro ⟨whole, derives⟩
    exact ⟨_, Scan.lexes_of_stop whole, derives⟩
  · rintro ⟨ts, lexes, derives⟩
    rw [Scan.ofChars_of_lexes lexes]
    exact ⟨rfl, derives⟩

theorem derives_unique {cs : List Char} {f : Expr} (lexes : Lexes cs ts)
    (derives : Derives .sum ts e) (derives' : Derives .sum ts f) : e = f := by
  have read := ofChars_eq_ok_iff.2 ⟨ts, lexes, derives⟩
  have read' := ofChars_eq_ok_iff.2 ⟨ts, lexes, derives'⟩
  exact Except.ok.inj (read.symm.trans read')

/-- The parser accepts exactly the texts whose tokens the grammar derives, and makes the tree of the
derivation, which is the only one. Operators of one kind are taken from the left to the right. -/
theorem parse_iff_derives (text : String) :
    (∀ e, parse text = .ok e ↔ ∃ ts, Lexes text.toList ts ∧ Derives .sum ts e) ∧
    (∀ ts us, Lexes text.toList ts → Lexes text.toList us → ts = us) ∧
    (∀ ts e f, Lexes text.toList ts → Derives .sum ts e → Derives .sum ts f → e = f) ∧
    (∀ ts us vs a b c o o', Lexes text.toList (ts ++ .op o :: us ++ .op o' :: vs) → o.Additive →
      o'.Additive →
      Derives .sum ts a → Derives .product us b → Derives .product vs c →
      parse text = .ok (.binary o' (.binary o a b) c)) ∧
    (∀ ts us vs a b c o o', Lexes text.toList (ts ++ .op o :: us ++ .op o' :: vs) →
      o.Multiplicative →
      o'.Multiplicative → Derives .product ts a → Derives .unary us b → Derives .unary vs c →
      parse text = .ok (.binary o' (.binary o a b) c)) := by
  refine ⟨fun e => ofChars_eq_ok_iff, ?_, fun ts e f => derives_unique, ?_, ?_⟩
  · intro ts us lexes lexes'
    have same := (Scan.ofChars_of_lexes lexes).symm.trans (Scan.ofChars_of_lexes lexes')
    exact congrArg Scan.tokens same
  · intro ts us vs a b c o o' lexes kind kind' first second third
    exact ofChars_eq_ok_iff.2 ⟨_, lexes, .additive kind' (.additive kind first second) third⟩
  · intro ts us vs a b c o o' lexes kind kind' first second third
    exact ofChars_eq_ok_iff.2
      ⟨_, lexes, .ofProduct (.multiplicative kind' (.multiplicative kind first second) third)⟩

/-- Two differences are taken from the left, also without blanks and with a capital variable. -/
theorem parse_iff_derives_chain :
    ∃ ts, Lexes "1 -2-X".toList ts ∧
      Derives .sum ts (.binary .sub (.binary .sub (.literal 1) (.literal 2)) .var) :=
  ((parse_iff_derives "1 -2-X").1 _).1 (by decide +kernel)

end Expr

end CellularAutomaton
