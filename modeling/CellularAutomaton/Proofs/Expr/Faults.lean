import CellularAutomaton.Proofs.Expr.Grammar

/-!
# Where an expression goes wrong

Some tokens are the beginning of an expression, and these are the tokens that the parser goes over:
whatever it has read can be completed by an operand and the parentheses that are still open. So an
error lies at the first place where a text stops being the beginning of an expression, and what
follows this place makes no difference.
-/

namespace CellularAutomaton

/-- The text in front of `rest` is cut into the tokens by maximal munch. -/
inductive LexesBefore (rest : List Char) : List Char → List Token → Prop
  | done : LexesBefore rest rest []
  | blank {c : Char} {cs : List Char} {ts : List Token} (blank : Text.isBlank c)
      (later : LexesBefore rest cs ts) :
      LexesBefore rest (c :: cs) ts
  | token {t : Token} {w cs : List Char} {ts : List Token} (spelled : t.Spelled w)
      (longest : Longest w cs) (later : LexesBefore rest cs ts) :
      LexesBefore rest (w ++ cs) (t :: ts)

/-- Behind the tokens comes the piece, the longest at its place. -/
structure Stands (front w rest : List Char) (ts : List Token) : Prop where
  before : LexesBefore (w ++ rest) (front ++ (w ++ rest)) ts
  longest : Longest w rest

def IsExpression (ts : List Token) : Prop := ∃ e, Derives .sum ts e

/-- An expression begins with the tokens. -/
def Viable (ts : List Token) : Prop := ∃ us, IsExpression (ts ++ us)

/-- What is wrong with a piece behind the tokens: it is no token, or one that no expression has
there. -/
inductive Blames (ts : List Token) (w : List Char) : ExprError → Prop
  | fault {x : ExprError} (fault : Fault w x) : Blames ts w x
  | token {t : Token} (spelled : t.Spelled w) (stuck : ¬Viable (ts ++ [t])) :
      Blames ts w (.unexpectedToken t)

/-! ## Pieces in a text -/

theorem Token.Spelled.ne_nil {t : Token} {w : List Char} (spelled : t.Spelled w) : w ≠ [] := by
  cases spelled with
  | number some _ _ => exact some
  | _ => exact List.cons_ne_nil _ _

theorem Fault.ne_nil {w : List Char} {x : ExprError} (fault : Fault w x) : w ≠ [] := by
  cases fault with
  | number some _ _ => exact some
  | _ => exact List.cons_ne_nil _ _

theorem Piece.of_append {w v : List Char} {c : Char} (piece : Piece (w ++ c :: v)) (some : w ≠ []) :
    Piece (w ++ [c]) := by
  rw [List.append_cons] at piece
  obtain ⟨d, w, rfl⟩ := List.exists_cons_of_ne_nil some
  generalize whole : d :: w ++ [c] ++ v = text at piece
  cases piece with
  | symbol symbol => simp at whole
  | digits _ digits =>
    subst whole
    exact .digits (by simp) (List.forall_mem_append.1 digits).1
  | word start word =>
    obtain ⟨rfl, rfl⟩ := List.cons.inj whole
    exact .word start (List.forall_mem_append.1 word).1

/-- Only the next character tells whether a piece goes on. -/
theorem Longest.congr {w cs ds : List Char} (longest : Longest w cs) (some : w ≠ [])
    (same : cs.head? = ds.head?) :
    Longest w ds := by
  rintro v more ⟨after, rfl⟩ piece
  obtain ⟨c, v, rfl⟩ := List.exists_cons_of_ne_nil more
  exact longest.head c (by rw [same]; rfl) (piece.of_append some)

namespace LexesBefore

variable {rest cs w : List Char} {ts us : List Token} {t : Token} {s : Scan} {x : ExprError}

theorem scans (before : LexesBefore rest cs ts) (later : Scans rest s) :
    Scans cs ⟨ts ++ s.tokens, s.stop⟩ := by
  induction before with
  | done => exact later
  | blank blank _ ih => exact .blank blank ih
  | token spelled longest _ ih => exact .token spelled longest ih

theorem of_split (scans : Scans cs s) (split : s.tokens = ts ++ t :: us) :
    ∃ w rest, LexesBefore (w ++ rest) cs ts ∧ t.Spelled w ∧ Longest w rest := by
  induction scans generalizing ts with
  | nil => simp at split
  | blank blank _ ih =>
    obtain ⟨w, rest, before, found⟩ := ih split
    exact ⟨w, rest, .blank blank before, found⟩
  | @token t' w cs s spelled longest _ ih =>
    cases ts with
    | nil =>
      obtain ⟨rfl, -⟩ := List.cons.inj split
      exact ⟨w, cs, .done, spelled, longest⟩
    | cons t'' ts =>
      obtain ⟨rfl, later⟩ := List.cons.inj split
      obtain ⟨w', rest, before, found⟩ := ih later
      exact ⟨w', rest, .token spelled longest before, found⟩
  | fault => simp [Scan.halt] at split

theorem of_stop (scans : Scans cs s) (stop : s.stop = some x) :
    ∃ w rest, LexesBefore (w ++ rest) cs s.tokens ∧ Fault w x ∧ Longest w rest := by
  induction scans with
  | nil => cases stop
  | blank blank _ ih =>
    obtain ⟨w, rest, before, found⟩ := ih stop
    exact ⟨w, rest, .blank blank before, found⟩
  | token spelled longest _ ih =>
    obtain ⟨w, rest, before, found⟩ := ih stop
    exact ⟨w, rest, .token spelled longest before, found⟩
  | @fault w cs x fault longest =>
    cases stop
    exact ⟨w, cs, .done, fault, longest⟩

/-- What follows the next piece does not matter for the tokens before it. -/
theorem replace (before : LexesBefore (w ++ rest) cs ts) (some : w ≠ []) :
    ∃ front, cs = front ++ (w ++ rest) ∧
      ∀ rest', LexesBefore (w ++ rest') (front ++ (w ++ rest')) ts := by
  induction before with
  | done => exact ⟨[], rfl, fun _ => .done⟩
  | @blank c _ _ blank _ ih =>
    obtain ⟨front, rfl, before⟩ := ih
    exact ⟨c :: front, rfl, fun rest' => .blank blank (before rest')⟩
  | @token t u _ _ spelled longest _ ih =>
    obtain ⟨front, rfl, before⟩ := ih
    refine ⟨u ++ front, (List.append_assoc _ _ _).symm, fun rest' => ?_⟩
    rw [List.append_assoc]
    refine .token spelled (longest.congr spelled.ne_nil ?_) (before rest')
    obtain ⟨c, w, rfl⟩ := List.exists_cons_of_ne_nil some
    cases front <;> rfl

end LexesBefore

/-! ## What the parser goes over -/

variable {ts us : List Token} {e : Expr}

theorem Viable.of_append (viable : Viable (ts ++ us)) : Viable ts := by
  obtain ⟨vs, whole⟩ := viable
  exact ⟨us ++ vs, by rwa [← List.append_assoc]⟩

namespace ParserState

variable {s s' : ParserState} {t : Token} {x : ExprError}

/-- An operand can follow wherever one has to, and a parenthesis can be closed wherever one is
open. -/
theorem Spelled.viable (spelled : s.Spelled ts) (opposable : Opposable ts) : Viable ts := by
  have closed : ∀ outer sum product ts, (operator sum product outer).Spelled ts → Opposable ts →
      Viable ts := by
    intro outer
    -- on the open parentheses: closing the last of them leaves one less, with what is written so
    -- far inside
    induction outer with
    | nil =>
      rintro sum product ts ⟨us, as, bs, rfl, waits, derives, rfl⟩ -
      exact ⟨[], _, by simpa using waits.closeSum derives⟩
    | cons p outer ih =>
      intro sum product ts spelled opposable
      obtain ⟨q, closes⟩ := spelled.exists_closeProduct opposable
      have goes : (operator sum product (p :: outer)).next .rightParen =
          .ok (operator p.sum q outer) :=
        map_eq_ok.2 ⟨q, closes, rfl⟩
      have more : Opposable (ts ++ [.rightParen]) :=
        opposable_append.2 ⟨opposable, by simp [Opposable]⟩
      exact (ih _ _ _ (spelled.next goes) more).of_append
  cases s with
  | operator sum product outer => exact closed outer sum product ts spelled opposable
  | operand p outer =>
    have canonical : Expr.var.Canonical := trivial
    obtain ⟨q, closes⟩ := canonical.exists_closeProduct p
    have goes : (operand p outer).next .var = .ok (operator p.sum q outer) :=
      map_eq_ok.2 ⟨q, closes, rfl⟩
    have more : Opposable (ts ++ [.var]) := opposable_append.2 ⟨opposable, by simp [Opposable]⟩
    exact (closed _ _ _ _ (spelled.next goes) more).of_append

theorem run_append (s : ParserState) (ts us : List Token) :
    s.run (ts ++ us) = (s.run ts).bind fun s' => s'.run us := by
  induction ts generalizing s with
  | nil => rfl
  | cons t ts ih =>
    rw [List.cons_append, run_cons, run_cons]
    cases s.next t with
    | error x => rfl
    | ok s' => exact ih s'

end ParserState

/-- The token, or another number if it is the smallest one. -/
def Token.tame : Token → Token
  | .number n => .number (if n = Int64.minValue then 0 else n)
  | t => t

theorem Opposable.map_tame (opposable : Opposable ts) : ts.map Token.tame = ts := by
  have same : ∀ t ∈ ts, t.tame = t := by
    intro t inside
    cases t with
    | number n => rw [Token.tame, if_neg (opposable n inside)]
    | _ => rfl
  rw [List.map_congr_left same, List.map_id']

theorem opposable_map_tame (ts : List Token) : Opposable (ts.map Token.tame) := by
  intro n inside smallest
  obtain ⟨t, -, same⟩ := List.mem_map.1 inside
  cases t with
  | number m =>
    obtain rfl := Token.number.inj same
    split_ifs at smallest with least
    · cases smallest
    · exact least smallest
  | _ => cases same

theorem Derives.tame {v : Nonterminal} (derives : Derives v ts e) :
    ∃ f, Derives v (ts.map Token.tame) f := by
  induction derives with
  | ofProduct _ ih => exact ih.imp fun f product => .ofProduct product
  | additive kind _ _ ihl ihr =>
    obtain ⟨l, left⟩ := ihl
    obtain ⟨r, right⟩ := ihr
    rw [List.map_append]
    exact ⟨_, .additive kind left right⟩
  | ofUnary _ ih => exact ih.imp fun f unary => .ofUnary unary
  | multiplicative kind _ _ ihl ihr =>
    obtain ⟨l, left⟩ := ihl
    obtain ⟨r, right⟩ := ihr
    rw [List.map_append]
    exact ⟨_, .multiplicative kind left right⟩
  | minus _ ih =>
    obtain ⟨f, operand⟩ := ih
    exact ⟨_, .minus operand⟩
  | ofPrimary _ ih => exact ih.imp fun f primary => .ofPrimary primary
  | number n => exact ⟨_, .number _⟩
  | var => exact ⟨_, .var⟩
  | parentheses _ ih =>
    obtain ⟨f, inner⟩ := ih
    rw [List.map_append]
    exact ⟨_, .parentheses inner⟩

/-- The parser goes over the tokens that an expression can begin with. -/
theorem viable_iff (opposable : Opposable ts) :
    Viable ts ↔ ∃ s, ParserState.start.run ts = .ok s := by
  constructor
  · rintro ⟨us, e, derives⟩
    -- the tokens that follow are any tokens, also the smallest number, which the parser does not
    -- take after a sign
    obtain ⟨f, derives⟩ := derives.tame
    rw [List.map_append, opposable.map_tame] at derives
    have numbers : Opposable (ts ++ us.map Token.tame) :=
      opposable_append.2 ⟨opposable, opposable_map_tame us⟩
    obtain ⟨sum, last, -, done⟩ := derives.takes numbers [] []
    rw [List.append_nil, ← ParserState.start, ParserState.run_append] at done
    obtain ⟨s, first, -⟩ := bind_eq_ok.1 done
    exact ⟨s, first⟩
  · rintro ⟨s, done⟩
    have spelled := ParserState.Spelled.start.run done
    exact spelled.viable opposable

theorem run_eq_error_iff {x : ExprError} (opposable : Opposable ts) :
    ParserState.start.run ts = .error x ↔
    ∃ before t after, ts = before ++ t :: after ∧ Viable before ∧ ¬Viable (before ++ [t]) ∧
      x = .unexpectedToken t := by
  have split : ∀ before t after, ts = before ++ t :: after →
      Opposable before ∧ Opposable (before ++ [t]) := by
    rintro before t after rfl
    rw [List.append_cons] at opposable
    have first := (opposable_append.1 opposable).1
    exact ⟨(opposable_append.1 first).1, first⟩
  constructor
  · intro stops
    obtain ⟨before, t, after, s, same, done, stops⟩ := ParserState.exists_of_run_error stops
    obtain ⟨known, known'⟩ := split before t after same
    refine ⟨before, t, after, same, (viable_iff known).2 ⟨s, done⟩, ?_, ?_⟩
    · rw [viable_iff known', ParserState.run_append, done]
      rintro ⟨s', goes⟩
      rw [Except.bind, ParserState.run_cons, stops] at goes
      cases goes
    · exact (ParserState.Spelled.start.run done).next_error known' stops
  · rintro ⟨before, t, after, same, viable, stuck, rfl⟩
    obtain ⟨known, known'⟩ := split before t after same
    obtain ⟨s, done⟩ := (viable_iff known).1 viable
    rw [same, ParserState.run_append, done, Except.bind, ParserState.run_cons]
    cases goes : s.next t with
    | ok s' =>
      refine absurd ((viable_iff known').2 ⟨s', ?_⟩) stuck
      rw [ParserState.run_append, done, Except.bind, ParserState.run_cons, goes]
      rfl
    | error x =>
      rw [(ParserState.Spelled.start.run done).next_error known' goes]
      rfl

/-! ## Errors and their places -/

theorem Stands.replace {front w rest rest' : List Char} (stands : Stands front w rest ts)
    (some : w ≠ []) (longest : Longest w rest') : Stands front w rest' ts := by
  obtain ⟨front', same, before⟩ := stands.before.replace some
  obtain rfl := List.append_cancel_right same
  exact ⟨before rest', longest⟩

theorem LexesBefore.stands {cs w rest : List Char} (before : LexesBefore (w ++ rest) cs ts)
    (some : w ≠ []) (longest : Longest w rest) :
    ∃ front, cs = front ++ (w ++ rest) ∧ Stands front w rest ts := by
  obtain ⟨front, rfl, -⟩ := before.replace some
  exact ⟨front, rfl, before, longest⟩

theorem Fault.ne_syntax {w : List Char} {x : ExprError} (fault : Fault w x) :
    (∀ t, x ≠ .unexpectedToken t) ∧ x ≠ .unexpectedEnd := by
  cases fault <;> exact ⟨nofun, nofun⟩

namespace Expr

/-- A token out of place comes before a piece that is no token, and this before the missing end. -/
theorem ofScan_eq_error_iff {s : Scan} {x : ExprError} (opposable : Opposable s.tokens) :
    ofScan s = .error x ↔
    ParserState.start.run s.tokens = .error x ∨ Viable s.tokens ∧
      (s.stop = some x ∨ s.stop = none ∧ ¬IsExpression s.tokens ∧ x = .unexpectedEnd) := by
  constructor
  · intro read
    have refused : ∀ e, s.stop = none → ¬Derives .sum s.tokens e := by
      intro e whole derives
      rw [(ofScan_eq_ok_iff opposable).2 ⟨whole, derives⟩] at read
      cases read
    unfold ofScan at read
    split at read
    · next stops =>
      cases read
      exact .inl stops
    · next q y done stop =>
      cases read
      exact .inr ⟨(viable_iff opposable).2 ⟨q, done⟩, .inl stop⟩
    · next q done whole =>
      split at read
      · cases read
      · cases read
        have incomplete : ¬IsExpression s.tokens := fun ⟨e, derives⟩ => refused e whole derives
        exact .inr ⟨(viable_iff opposable).2 ⟨q, done⟩, .inr ⟨whole, incomplete, rfl⟩⟩
  · rintro (stops | ⟨viable, stop⟩)
    · rw [ofScan, stops]
    · obtain ⟨q, done⟩ := (viable_iff opposable).1 viable
      rcases stop with stop | ⟨whole, incomplete, rfl⟩
      · rw [ofScan, done, stop]
      · have unfinished : q.result? = none := by
          by_contra closed
          obtain ⟨e, closed⟩ := Option.ne_none_iff_exists'.1 closed
          exact incomplete ⟨e, (ParserState.Spelled.start.run done).result closed⟩
        rw [ofScan, done, whole]
        simp only [unfinished]

variable {cs : List Char} {t : Token} {x : ExprError}

theorem ofChars_eq_unexpectedToken_iff : ofChars cs = .error (.unexpectedToken t) ↔
    ∃ front w rest ts, cs = front ++ (w ++ rest) ∧ Stands front w rest ts ∧
      t.Spelled w ∧ Viable ts ∧
      ¬Viable (ts ++ [t]) := by
  have numbers : Opposable (Scan.ofChars cs).tokens := Scan.numbers cs
  rw [ofChars, ofScan_eq_error_iff numbers]
  constructor
  · rintro (stops | ⟨-, stop | ⟨-, -, other⟩⟩)
    · obtain ⟨ts, t', us, split, viable, stuck, same⟩ := (run_eq_error_iff numbers).1 stops
      cases same
      obtain ⟨w, rest, before, spelled, longest⟩ :=
        LexesBefore.of_split (Scan.scans_ofChars cs) split
      obtain ⟨front, same, stands⟩ := before.stands spelled.ne_nil longest
      exact ⟨front, w, rest, ts, same, stands, spelled, viable, stuck⟩
    · obtain ⟨w, rest, -, fault, -⟩ := LexesBefore.of_stop (Scan.scans_ofChars cs) stop
      exact absurd rfl (fault.ne_syntax.1 t)
    · cases other
  · rintro ⟨front, w, rest, ts, rfl, stands, spelled, viable, stuck⟩
    have scans := stands.before.scans (.token spelled stands.longest (Scan.scans_ofChars rest))
    rw [Scan.ofChars_eq_iff.2 scans] at numbers ⊢
    exact .inl ((run_eq_error_iff numbers).2 ⟨ts, t, _, rfl, viable, stuck, rfl⟩)

theorem ofChars_eq_unexpectedEnd_iff : ofChars cs = .error .unexpectedEnd ↔
    ∃ ts, Lexes cs ts ∧ Viable ts ∧ ¬IsExpression ts := by
  have numbers : Opposable (Scan.ofChars cs).tokens := Scan.numbers cs
  rw [ofChars, ofScan_eq_error_iff numbers]
  constructor
  · rintro (stops | ⟨viable, stop | ⟨whole, incomplete, -⟩⟩)
    · obtain ⟨-, t, -, -, -, -, same⟩ := (run_eq_error_iff numbers).1 stops
      cases same
    · obtain ⟨w, rest, -, fault, -⟩ := LexesBefore.of_stop (Scan.scans_ofChars cs) stop
      exact absurd rfl fault.ne_syntax.2
    · exact ⟨_, Scan.lexes_of_stop whole, viable, incomplete⟩
  · rintro ⟨ts, lexes, viable, incomplete⟩
    rw [Scan.ofChars_of_lexes lexes]
    exact .inr ⟨viable, .inr ⟨rfl, incomplete, rfl⟩⟩

theorem ofChars_eq_fault_iff (inOrder : ∀ t, x ≠ .unexpectedToken t) (ended : x ≠ .unexpectedEnd) :
    ofChars cs = .error x ↔
      ∃ front w rest ts, cs = front ++ (w ++ rest) ∧ Stands front w rest ts ∧ Fault w x ∧
        Viable ts := by
  have numbers : Opposable (Scan.ofChars cs).tokens := Scan.numbers cs
  rw [ofChars, ofScan_eq_error_iff numbers]
  constructor
  · rintro (stops | ⟨viable, stop | ⟨-, -, other⟩⟩)
    · obtain ⟨-, t, -, -, -, -, same⟩ := (run_eq_error_iff numbers).1 stops
      exact absurd same (inOrder t)
    · obtain ⟨w, rest, before, fault, longest⟩ := LexesBefore.of_stop (Scan.scans_ofChars cs) stop
      obtain ⟨front, same, stands⟩ := before.stands fault.ne_nil longest
      exact ⟨front, w, rest, _, same, stands, fault, viable⟩
    · exact absurd other ended
  · rintro ⟨front, w, rest, ts, rfl, stands, fault, viable⟩
    have scans := stands.before.scans (.fault fault stands.longest)
    rw [Scan.ofChars_eq_iff.2 scans]
    refine .inr ⟨?_, .inl rfl⟩
    simpa [Scan.halt] using viable

/-- An error stands at the first place where the text is no longer the beginning of an expression. A
token is out of place if it is the first that cannot follow those before it. The end is one if the
tokens of the whole text can be completed but are not complete. A piece that is no token is reported
if the tokens before it can be completed. Nothing but this is wrong with a text, and what comes
after the place has no influence. -/
theorem errors_point_at_first_fault (text : String) :
    (∀ t, parse text = .error (.unexpectedToken t) ↔
      ∃ front w rest ts, text.toList = front ++ (w ++ rest) ∧ Stands front w rest ts ∧
        t.Spelled w ∧ Viable ts ∧
        ¬Viable (ts ++ [t])) ∧
    (parse text = .error .unexpectedEnd ↔
      ∃ ts, Lexes text.toList ts ∧ Viable ts ∧ ¬IsExpression ts) ∧
    (∀ x, (∀ t, x ≠ .unexpectedToken t) → x ≠ .unexpectedEnd → (parse text = .error x ↔
      ∃ front w rest ts, text.toList = front ++ (w ++ rest) ∧ Stands front w rest ts ∧ Fault w x ∧
        Viable ts)) ∧
    (∀ x, parse text = .error x → (∃ t, x = .unexpectedToken t) ∨ x = .unexpectedEnd ∨
      ∃ w, Fault w x) ∧
    (∀ front w rest ts x, text.toList = front ++ (w ++ rest) → Stands front w rest ts → Viable ts →
      Blames ts w x → ∀ rest', Longest w rest' →
        parse (String.ofList (front ++ (w ++ rest'))) = .error x) := by
  refine ⟨fun t => ofChars_eq_unexpectedToken_iff, ofChars_eq_unexpectedEnd_iff,
    fun x => ofChars_eq_fault_iff, ?_, ?_⟩
  · intro x stops
    by_cases token : ∃ t, x = .unexpectedToken t
    · exact .inl token
    · by_cases ended : x = .unexpectedEnd
      · exact .inr (.inl ended)
      · obtain ⟨-, w, -, -, -, -, fault, -⟩ :=
          (ofChars_eq_fault_iff (not_exists.1 token) ended).1 stops
        exact .inr (.inr ⟨w, fault⟩)
  · intro front w rest ts x _ stands viable blames rest' longest
    rw [parse, String.toList_ofList]
    cases blames with
    | fault fault =>
      obtain ⟨inOrder, ended⟩ := fault.ne_syntax
      have there := stands.replace fault.ne_nil longest
      exact (ofChars_eq_fault_iff inOrder ended).2 ⟨front, w, rest', ts, rfl, there, fault, viable⟩
    | token spelled stuck =>
      have there := stands.replace spelled.ne_nil longest
      exact ofChars_eq_unexpectedToken_iff.2
        ⟨front, w, rest', ts, rfl, there, spelled, viable, stuck⟩

/-- There is nothing between parentheses that are closed at once, whatever else is wrong after
them. -/
theorem errors_point_at_first_fault_empty :
    Stands ['('] [')'] ['$'] [.leftParen] ∧ Viable [.leftParen] ∧
      Blames [.leftParen] [')'] (.unexpectedToken .rightParen) ∧
      parse "()(" = .error (.unexpectedToken .rightParen) := by
  have numbers : Opposable ([.leftParen] ++ [.rightParen]) := by simp [Opposable]
  have stands : Stands ['('] [')'] ['$'] [.leftParen] :=
    ⟨.token (w := ['(']) .leftParen (Scan.longest_of_symbol (by simp)) .done,
      Scan.longest_of_symbol (by simp)⟩
  have viable : Viable [.leftParen] := (viable_iff (opposable_append.1 numbers).1).2 ⟨_, rfl⟩
  have blames : Blames [.leftParen] [')'] (.unexpectedToken .rightParen) := by
    refine .token .rightParen fun goes => ?_
    obtain ⟨s, goes⟩ := (viable_iff numbers).1 goes
    cases goes
  have next : Longest [')'] ['('] := Scan.longest_of_symbol (by simp)
  exact ⟨stands, viable, blames,
    (errors_point_at_first_fault "()$").2.2.2.2 _ _ _ _ _ rfl stands viable blames _ next⟩

end Expr

end CellularAutomaton
