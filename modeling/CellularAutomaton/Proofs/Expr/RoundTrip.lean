import CellularAutomaton.Expr.Printer
import CellularAutomaton.Proofs.Expr.Grammar

/-!
# Expressions read back

The scanner finds the tokens of a tree in its text, and these derive the tree, but for the minus
signs before literals, which become a part of the literal. So a tree is read back as one that has
the same values, and a tree that the parser has made is read back as it is. Only the smallest
integer cannot be written.
-/

namespace CellularAutomaton

namespace Expr

variable {e : Expr}

def parts : Expr → List Expr
  | literal n => [literal n]
  | var => [var]
  | neg e => neg e :: e.parts
  | binary op l r => binary op l r :: (l.parts ++ r.parts)

/-- The expression with the minus signs before literals taken into them, from the inside out. -/
def folded : Expr → Expr
  | literal n => literal n
  | var => var
  | neg e => e.folded.opposite
  | binary op l r => binary op l.folded r.folded

/-- The smallest integer is no literal of the expression. -/
def Writable (e : Expr) : Prop := literal Int64.minValue ∉ e.parts

instance : DecidablePred Writable := fun _ => inferInstanceAs (Decidable (_ ∉ _))

theorem writable_literal {n : Int64} : (literal n).Writable ↔ n ≠ Int64.minValue := by
  simp [Writable, parts, eq_comm]

theorem writable_neg : (neg e).Writable ↔ e.Writable := by simp [Writable, parts]

theorem writable_binary {op : Operator} {l r : Expr} :
    (binary op l r).Writable ↔ l.Writable ∧ r.Writable := by
  simp [Writable, parts]

/-- No minus sign stands directly before a literal. -/
def Unsigned (e : Expr) : Prop := ∀ n, neg (literal n) ∉ e.parts

theorem unsigned_neg : (neg e).Unsigned ↔ (∀ n, e ≠ literal n) ∧ e.Unsigned := by
  simp only [Unsigned, parts, List.mem_cons, not_or, neg.injEq, forall_and, eq_comm, ne_eq]

theorem unsigned_binary {op : Operator} {l r : Expr} :
    (binary op l r).Unsigned ↔ l.Unsigned ∧ r.Unsigned := by
  simp [Unsigned, parts, forall_and]

theorem canonical_iff : e.Canonical ↔ e.Writable ∧ e.Unsigned := by
  induction e with
  | literal n => simp [Canonical, writable_literal, Unsigned, parts]
  | var => simp [Canonical, Writable, Unsigned, parts]
  | neg e ih =>
    rw [Canonical, ih, writable_neg, unsigned_neg]
    exact and_left_comm
  | binary op l r ihl ihr =>
    rw [Canonical, ihl, ihr, writable_binary, unsigned_binary]
    exact and_and_and_comm

theorem opposite_of_ne (other : ∀ n, e ≠ literal n) : e.opposite = neg e := by
  cases e with
  | literal n => exact absurd rfl (other n)
  | var => rfl
  | neg e => rfl
  | binary op l r => rfl

/-- Folding changes an expression only if a minus sign stands before a literal. -/
theorem folded_eq_iff : e.folded = e ↔ e.Unsigned := by
  induction e with
  | literal n => simp [folded, Unsigned, parts]
  | var => simp [folded, Unsigned, parts]
  | neg e ih =>
    rw [folded, unsigned_neg, ← ih]
    constructor
    · intro same
      by_cases literal : ∃ n, e.folded = .literal n
      · obtain ⟨n, isLiteral⟩ := literal
        rw [isLiteral] at same
        cases same
      · rw [not_exists] at literal
        rw [opposite_of_ne literal] at same
        have stays := neg.inj same
        exact ⟨stays ▸ literal, stays⟩
    · rintro ⟨other, stays⟩
      rw [stays]
      exact opposite_of_ne other
  | binary op l r ihl ihr =>
    rw [folded, unsigned_binary, ← ihl, ← ihr]
    simp

theorem Writable.canonical_folded (writable : e.Writable) : e.folded.Canonical := by
  induction e with
  | literal n => exact writable_literal.1 writable
  | var => trivial
  | neg e ih => exact (ih (writable_neg.1 writable)).opposite
  | binary op l r ihl ihr =>
    obtain ⟨left, right⟩ := writable_binary.1 writable
    exact ⟨ihl left, ihr right⟩

theorem checked_neg {n : Int64} (opposable : n ≠ Int64.minValue) :
    checked (-n.toInt) = .ok (-n) := by
  have smallest : Int64.minValue.toInt = -2 ^ 63 := rfl
  have most : Int64.maxValue.toInt = 2 ^ 63 - 1 := rfl
  have lower : Int64.minValue.toInt ≠ n.toInt := fun same => opposable (Int64.toInt_inj.1 same.symm)
  have bounds : -2 ^ 63 ≤ n.toInt ∧ n.toInt < 2 ^ 63 := ⟨n.le_toInt, n.toInt_lt⟩
  have inRange : Int64.minValue.toInt ≤ -n.toInt ∧ -n.toInt ≤ Int64.maxValue.toInt := by omega
  rw [checked, Numeral.int64?, if_pos inRange]
  simp

theorem Canonical.eval_opposite (canonical : e.Canonical) (x : State) :
    e.opposite.eval x = (neg e).eval x := by
  cases e with
  | literal n => exact (checked_neg canonical).symm
  | var => rfl
  | neg e => rfl
  | binary op l r => rfl

theorem Writable.eval_folded (writable : e.Writable) (x : State) : e.folded.eval x = e.eval x := by
  induction e with
  | literal n => rfl
  | var => rfl
  | neg e ih =>
    have inner := writable_neg.1 writable
    rw [folded, inner.canonical_folded.eval_opposite, eval, eval, ih inner]
  | binary op l r ihl ihr =>
    obtain ⟨left, right⟩ := writable_binary.1 writable
    rw [folded, eval, eval, ihl left, ihr right]

/-! ## Tokens -/

def tokens : Expr → List Token
  | literal n =>
    if n.toInt < 0 then [.op .sub, .number (Int64.ofNat n.toInt.natAbs)]
    else [.number (Int64.ofNat n.toInt.natAbs)]
  | var => [.var]
  | neg e => .op .sub :: e.tokens
  | binary op l r => .leftParen :: l.tokens ++ .op op :: r.tokens ++ [.rightParen]

theorem derives_tokens (e : Expr) : Derives .unary e.tokens e.folded := by
  induction e with
  | literal n =>
    rw [tokens, folded]
    split_ifs with negative
    · have back : -Int64.ofNat n.toInt.natAbs = n := by
        have lower := n.le_toInt
        rw [← Int64.toInt_inj, Int64.toInt_neg_ofNat_of_le (by omega)]
        omega
      have signed := Derives.minus (.ofPrimary (.number (Int64.ofNat n.toInt.natAbs)))
      rwa [opposite, back] at signed
    · have back : Int64.ofNat n.toInt.natAbs = n := by
        have upper := n.toInt_lt
        rw [← Int64.toInt_inj, Int64.toInt_ofNat_of_lt (by omega)]
        omega
      rw [back]
      exact .ofPrimary (.number n)
  | var => exact .ofPrimary .var
  | neg e ih => exact .minus ih
  | binary op l r ihl ihr =>
    have inner : Derives .sum (l.tokens ++ .op op :: r.tokens) (binary op l.folded r.folded) := by
      cases op with
      | add => exact .additive (.inl rfl) (.ofProduct (.ofUnary ihl)) (.ofUnary ihr)
      | sub => exact .additive (.inr rfl) (.ofProduct (.ofUnary ihl)) (.ofUnary ihr)
      | mul => exact .ofProduct (.multiplicative (.inl rfl) (.ofUnary ihl) ihr)
      | div => exact .ofProduct (.multiplicative (.inr rfl) (.ofUnary ihl) ihr)
    exact .ofPrimary (.parentheses inner)

end Expr

namespace Scan

theorem natAbs_le_maxValue {n : Int64} (opposable : n ≠ Int64.minValue) :
    (n.toInt.natAbs : ℤ) ≤ Int64.maxValue.toInt := by
  have lower : -2 ^ 63 ≠ n.toInt := fun same => opposable (Int64.toInt_inj.1 same.symm)
  have bounds : -2 ^ 63 ≤ n.toInt ∧ n.toInt < 2 ^ 63 := ⟨n.le_toInt, n.toInt_lt⟩
  have most : Int64.maxValue.toInt = 2 ^ 63 - 1 := rfl
  omega

theorem print_binary (op : Operator) (l r : Expr) (rest : List Char) :
    (Expr.binary op l r).print ++ rest =
      '(' :: (l.print ++ ' ' :: op.symbol :: ' ' :: (r.print ++ ')' :: rest)) := by
        simp [Expr.print]

theorem delimits_space (rest : List Char) : Delimits (' ' :: rest) :=
  delimits_cons (by decide) (by decide) rest

theorem delimits_parenthesis (rest : List Char) : Delimits (')' :: rest) :=
  delimits_cons (by decide) (by decide) rest

theorem ofChars_print {e : Expr} (writable : e.Writable) {rest : List Char}
    (delimits : Delimits rest) :
    ofChars (e.print ++ rest) = ⟨e.tokens ++ (ofChars rest).tokens, (ofChars rest).stop⟩ := by
  induction e generalizing rest with
  | literal n =>
    have small := natAbs_le_maxValue (Expr.writable_literal.1 writable)
    have stops : ∀ c ∈ rest.head?, c.isDigit = false := fun c first => (delimits c first).1
    rw [Expr.print, Expr.tokens, Numeral.integer]
    split_ifs
    · rw [List.cons_append, ofChars_symbol rfl (by decide), ofChars_natural _ stops, if_pos small]
      rfl
    · rw [ofChars_natural _ stops, if_pos small]
      rfl
  | var => exact ofChars_var (.inl rfl) fun c first => (delimits c first).2
  | neg e ih =>
    rw [Expr.print, Expr.tokens, List.cons_append, ofChars_symbol rfl (by decide),
      ih (Expr.writable_neg.1 writable) delimits]
    rfl
  | binary op l r ihl ihr =>
    obtain ⟨left, right⟩ := Expr.writable_binary.1 writable
    rw [print_binary, Expr.tokens, ofChars_symbol rfl (by decide), ihl left (delimits_space _),
      ofChars_blank (by decide), ofChars_operator, ofChars_blank (by decide),
      ihr right (delimits_parenthesis _), ofChars_symbol rfl (by decide)]
    simp [push]

theorem ofChars_print_end {e : Expr} (writable : e.Writable) :
    ofChars e.print = ⟨e.tokens, none⟩ := by
  have scanned := @ofChars_print e writable [] (by simp [Delimits])
  rw [List.append_nil] at scanned
  rw [scanned]
  simp [ofChars]

end Scan

namespace Expr

variable {e : Expr}

theorem Writable.opposable_tokens (writable : e.Writable) : Opposable e.tokens := by
  have numbers := Scan.numbers e.print
  rwa [Scan.ofChars_print_end writable] at numbers

/-- A tree is read back from its text, with the minus signs before literals taken into them. -/
theorem Writable.ofChars_print (writable : e.Writable) : ofChars e.print = .ok e.folded := by
  rw [ofChars, Scan.ofChars_print_end writable]
  exact (ofScan_eq_ok_iff writable.opposable_tokens).2 ⟨rfl, .ofProduct (.ofUnary e.derives_tokens)⟩

theorem canonical_of_ofChars {cs : List Char} (read : ofChars cs = .ok e) : e.Canonical := by
  obtain ⟨ts, lexes, derives⟩ := ofChars_eq_ok_iff.1 read
  exact derives.canonical (opposable_of_lexes lexes)

theorem ofChars_print (canonical : e.Canonical) : ofChars e.print = .ok e := by
  obtain ⟨writable, unsigned⟩ := canonical_iff.1 canonical
  rw [writable.ofChars_print, folded_eq_iff.2 unsigned]

/-! ## The smallest integer -/

/-- The scanner stops at the digits of the smallest integer, and the parser takes what stands
before. -/
theorem scan_not_writable (smallest : ¬e.Writable) {rest : List Char}
    (delimits : Scan.Delimits rest) :
    ∃ ts, Scan.ofChars (e.print ++ rest) = ⟨ts, some (.invalidNumber "9223372036854775808")⟩ ∧
      ∀ p outer, ∃ s, (ParserState.operand p outer).run ts = .ok s := by
  induction e generalizing rest with
  | literal n =>
    obtain rfl : n = Int64.minValue := by
      by_contra other
      exact smallest (writable_literal.2 other)
    refine ⟨[.op .sub], ?_, fun p outer => ⟨_, rfl⟩⟩
    have digits : (literal Int64.minValue).print = '-' :: Numeral.natural 9223372036854775808 := rfl
    have large : ¬((9223372036854775808 : ℕ) : ℤ) ≤ Int64.maxValue.toInt := by
      rw [show Int64.maxValue.toInt = 2 ^ 63 - 1 from rfl]
      norm_num
    rw [digits, List.cons_append, Scan.ofChars_symbol rfl (by decide),
      Scan.ofChars_natural _ fun c first => (delimits c first).1, if_neg large]
    rfl
  | var => exact absurd (by simp [Writable, parts]) smallest
  | neg e ih =>
    obtain ⟨ts, found, takes⟩ := ih (fun writable => smallest (writable_neg.2 writable)) delimits
    refine ⟨.op .sub :: ts, ?_, fun p outer => takes { p with minuses := p.minuses + 1 } outer⟩
    rw [print, List.cons_append, Scan.ofChars_symbol rfl (by decide), found]
    rfl
  | binary op l r ihl ihr =>
    rw [Scan.print_binary, Scan.ofChars_symbol rfl (by decide)]
    by_cases left : l.Writable
    · have right : ¬r.Writable := fun right => smallest (writable_binary.2 ⟨left, right⟩)
      obtain ⟨ts, found, takes⟩ := ihr right (Scan.delimits_parenthesis rest)
      refine ⟨.leftParen :: (l.tokens ++ .op op :: ts), ?_, ?_⟩
      · rw [Scan.ofChars_print left (Scan.delimits_space _), Scan.ofChars_blank (by decide),
          Scan.ofChars_operator, Scan.ofChars_blank (by decide), found]
        rfl
      · intro p outer
        have first := l.derives_tokens.takes left.opposable_tokens .start (p :: outer)
          (.op op :: ts)
        have goes : ∃ q, (ParserState.operator none l.folded (p :: outer)).next (.op op) =
            .ok (.operand q (p :: outer)) := by cases op <;> exact ⟨_, rfl⟩
        obtain ⟨q, goes⟩ := goes
        obtain ⟨s, done⟩ := takes q (p :: outer)
        refine ⟨s, first.trans ?_⟩
        show (ParserState.operator none l.folded (p :: outer)).run (.op op :: ts) = .ok s
        rw [ParserState.run_cons, goes]
        exact done
    · obtain ⟨ts, found, takes⟩ := ihl left (Scan.delimits_space _)
      refine ⟨.leftParen :: ts, ?_, fun p outer => takes .start (p :: outer)⟩
      rw [found]
      rfl

theorem ofChars_print_of_not_writable (smallest : ¬e.Writable) :
    ofChars e.print = .error (.invalidNumber "9223372036854775808") := by
  obtain ⟨ts, found, takes⟩ := @scan_not_writable e smallest [] (by simp [Scan.Delimits])
  obtain ⟨s, done⟩ := takes .start []
  rw [List.append_nil] at found
  rw [ofChars, found, ofScan, ParserState.start, done]

theorem Writable.bounds {n : Int64} (writable : e.Writable) (inside : literal n ∈ e.parts) :
    -(2 ^ 63 - 1) ≤ n.toInt ∧ n.toInt ≤ 2 ^ 63 - 1 := by
  have opposable : n ≠ Int64.minValue := by
    rintro rfl
    exact writable inside
  have small := Scan.natAbs_le_maxValue opposable
  have most : Int64.maxValue.toInt = 2 ^ 63 - 1 := rfl
  omega

/-- Whatever is printed without the smallest integer is read back as the folded expression, which
has the same values, and with it is not read at all. What has been read is folded and stays as it
is, and reading never comes to a literal without an opposite: out of place tokens are the only thing
that stops the parser. -/
theorem parse_print_eq_folded :
    (∀ e : Expr,
      (e.Writable → parse (String.ofList e.print) = .ok e.folded ∧
        ∀ x, e.folded.eval x = e.eval x) ∧
      (e.folded = e ↔ e.Unsigned) ∧
      (¬e.Writable →
        parse (String.ofList e.print) = .error (.invalidNumber "9223372036854775808"))) ∧
    (∀ text e, parse text = .ok e →
      (∀ n, literal n ∈ e.parts → -(2 ^ 63 - 1) ≤ n.toInt ∧ n.toInt ≤ 2 ^ 63 - 1) ∧
      e.Unsigned ∧ e.folded = e ∧ parse (String.ofList e.print) = .ok e) ∧
    ∀ text x, ParserState.start.run (Scan.ofChars (String.toList text)).tokens = .error x →
      ∃ t, x = .unexpectedToken t := by
  refine ⟨fun e => ⟨?_, folded_eq_iff, ?_⟩, ?_, ?_⟩
  · intro writable
    rw [parse, String.toList_ofList]
    exact ⟨writable.ofChars_print, writable.eval_folded⟩
  · intro smallest
    rw [parse, String.toList_ofList]
    exact ofChars_print_of_not_writable smallest
  · intro text e read
    have canonical := canonical_of_ofChars read
    obtain ⟨writable, unsigned⟩ := canonical_iff.1 canonical
    refine ⟨fun n inside => writable.bounds inside, unsigned, folded_eq_iff.2 unsigned, ?_⟩
    rw [parse, String.toList_ofList]
    exact ofChars_print canonical
  · intro text x stops
    obtain ⟨t, -, same⟩ := ParserState.Spelled.start.run_error (Scan.numbers text.toList) stops
    exact ⟨t, same⟩

/-- Two minus signs before a literal are taken into it, one after the other. -/
theorem parse_print_eq_folded_signs :
    (neg (neg (literal (-5)))).Writable ∧
      parse (String.ofList (neg (neg (literal (-5)))).print) = .ok (literal (-5)) ∧
      ∀ x, (literal (-5)).eval x = (neg (neg (literal (-5)))).eval x := by
  have writable : (neg (neg (literal (-5)))).Writable := by decide
  exact ⟨writable, (parse_print_eq_folded.1 _).1 writable⟩

end Expr

end CellularAutomaton
