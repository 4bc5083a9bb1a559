import CellularAutomaton.Expr.Token
import CellularAutomaton.Proofs.Numeral.Integer
import CellularAutomaton.Proofs.Text.Fields

/-!
# Cutting a text into tokens

A text is cut into tokens if each of them is the longest piece that begins at its place, with
nothing but blanks between them. The scanner finds these tokens. In a text that cannot be cut it
stops at the first piece that is no token, and says what is wrong with it.
-/

namespace CellularAutomaton

/-- A symbol, a string of digits, or a word. Not every piece is a token. -/
inductive Piece : List Char → Prop
  | symbol {c : Char} (symbol : c ∈ ['+', '-', '*', '/', '(', ')']) : Piece [c]
  | digits {cs : List Char} (some : cs ≠ []) (digits : ∀ c ∈ cs, c.isDigit) : Piece cs
  | word {c : Char} {cs : List Char} (start : Scan.isWordStart c)
      (word : ∀ d ∈ cs, Scan.isWordChar d) :
      Piece (c :: cs)

inductive Token.Spelled : Token → List Char → Prop
  | op (o : Operator) : Spelled (.op o) [o.symbol]
  | leftParen : Spelled .leftParen ['(']
  | rightParen : Spelled .rightParen [')']
  | var {c : Char} (name : c = 'x' ∨ c = 'X') : Spelled .var [c]
  | number {cs : List Char} (some : cs ≠ []) (digits : ∀ c ∈ cs, c.isDigit)
      (small : Nat.ofDigitChars 10 cs 0 ≤ 2 ^ 63 - 1) :
      Spelled (.number (Int64.ofNat (Nat.ofDigitChars 10 cs 0))) cs

/-- The text is cut into the tokens by maximal munch. -/
inductive Lexes : List Char → List Token → Prop
  | nil : Lexes [] []
  | blank {c : Char} {cs : List Char} {ts : List Token} (blank : Text.isBlank c)
      (rest : Lexes cs ts) :
      Lexes (c :: cs) ts
  | token {t : Token} {w cs : List Char} {ts : List Token} (spelled : t.Spelled w)
      (longest : ∀ v, v ≠ [] → v <+: cs → ¬Piece (w ++ v)) (rest : Lexes cs ts) :
      Lexes (w ++ cs) (t :: ts)

/-- No longer piece begins with `w` if `cs` follows it. -/
def Longest (w cs : List Char) : Prop := ∀ v, v ≠ [] → v <+: cs → ¬Piece (w ++ v)

/-- What is wrong with a character that begins no piece, or with a piece that is no token. -/
inductive Fault : List Char → ExprError → Prop
  | char {c : Char} (solid : Text.isBlank c = false) (none : ∀ v, ¬Piece (c :: v)) :
      Fault [c] (.unexpectedChar c)
  | word {c : Char} {cs : List Char} (start : Scan.isWordStart c)
      (word : ∀ d ∈ cs, Scan.isWordChar d) (unknown : ¬(c :: cs = ['x'] ∨ c :: cs = ['X'])) :
      Fault (c :: cs) (.unknownVariable (String.ofList (c :: cs)))
  | number {cs : List Char} (some : cs ≠ []) (digits : ∀ c ∈ cs, c.isDigit)
      (large : 2 ^ 63 - 1 < Nat.ofDigitChars 10 cs 0) : Fault cs (.invalidNumber (String.ofList cs))

/-- The text is cut into tokens by maximal munch, up to its end or to something that is no token. -/
inductive Scans : List Char → Scan → Prop
  | nil : Scans [] ⟨[], none⟩
  | blank {c : Char} {cs : List Char} {s : Scan} (blank : Text.isBlank c) (rest : Scans cs s) :
      Scans (c :: cs) s
  | token {t : Token} {w cs : List Char} {s : Scan} (spelled : t.Spelled w) (longest : Longest w cs)
      (rest : Scans cs s) : Scans (w ++ cs) (s.push t)
  | fault {w cs : List Char} {x : ExprError} (fault : Fault w x) (longest : Longest w cs) :
      Scans (w ++ cs) (.halt x)

/-! ## Where pieces end -/

namespace Piece

theorem isWordStart_of_lt {c : Char} (low : c.toNat < 0x41) : Scan.isWordStart c = false := by
  have letter : Text.isAlphabetic c = false := Text.inRanges_eq_false_of_lt low
  have underscore : c ≠ '_' := by
    rintro rfl
    exact absurd low (by decide)
  simp [Scan.isWordStart, letter, underscore]

theorem isWordStart_of_isDigit {c : Char} (digit : c.isDigit) : Scan.isWordStart c = false := by
  have bounds : 48 ≤ c.toNat ∧ c.toNat ≤ 57 := by simpa [Char.isDigit_iff_toNat] using digit
  exact isWordStart_of_lt (by omega)

theorem isDigit_of_isWordStart {c : Char} (start : Scan.isWordStart c) : c.isDigit = false := by
  by_contra digit
  rw [Bool.not_eq_false] at digit
  rw [isWordStart_of_isDigit digit] at start
  cases start

theorem not_symbol {c : Char} (symbol : c ∈ ['+', '-', '*', '/', '(', ')']) :
    c.isDigit = false ∧ Scan.isWordStart c = false ∧ Text.isBlank c = false := by
  have low := Text.forall_mem_of_all
    (p := fun c => c.toNat < 0x41 ∧ c.isDigit = false ∧ Text.isBlank c = false) (by decide) c symbol
  exact ⟨low.2.1, isWordStart_of_lt low.1, low.2.2⟩

theorem digits_of_isDigit {c : Char} {cs : List Char} (piece : Piece (c :: cs))
    (digit : c.isDigit) :
    ∀ d ∈ cs, d.isDigit := by
  cases piece with
  | symbol symbol => simp
  | digits some digits => exact fun d inside => digits d (List.mem_cons_of_mem _ inside)
  | word start word =>
    rw [isDigit_of_isWordStart start] at digit
    cases digit

theorem word_of_isWordStart {c : Char} {cs : List Char} (piece : Piece (c :: cs))
    (start : Scan.isWordStart c) : ∀ d ∈ cs, Scan.isWordChar d := by
  cases piece with
  | symbol symbol => simp
  | digits some digits =>
    have digit := digits c List.mem_cons_self
    rw [isDigit_of_isWordStart start] at digit
    cases digit
  | word start word => exact word

theorem eq_nil_of_symbol {c : Char} {cs : List Char} (piece : Piece (c :: cs))
    (symbol : c ∈ ['+', '-', '*', '/', '(', ')']) : cs = [] := by
  obtain ⟨notDigit, notWord, -⟩ := not_symbol symbol
  cases piece with
  | symbol symbol => rfl
  | digits some digits =>
    rw [digits c List.mem_cons_self] at notDigit
    cases notDigit
  | word start word =>
    rw [start] at notWord
    cases notWord

end Piece

namespace Longest

variable {w cs : List Char}

theorem head (longest : Longest w cs) : ∀ c ∈ cs.head?, ¬Piece (w ++ [c]) := by
  intro c first
  obtain ⟨rest, rfl⟩ := List.head?_eq_some_iff.1 (Option.mem_def.1 first)
  exact longest [c] (by simp) ⟨rest, rfl⟩

theorem digits_stop (longest : Longest w cs) (digits : ∀ c ∈ w, c.isDigit) :
    ∀ d ∈ cs.head?, d.isDigit = false := by
  intro d first
  by_contra goes
  rw [Bool.not_eq_false] at goes
  refine longest.head d first (.digits (by simp) ?_)
  exact List.forall_mem_append.2 ⟨digits, by simpa using goes⟩

theorem word_stops {c : Char} (longest : Longest (c :: w) cs) (start : Scan.isWordStart c)
    (word : ∀ d ∈ w, Scan.isWordChar d) : ∀ d ∈ cs.head?, Scan.isWordChar d = false := by
  intro d first
  by_contra goes
  rw [Bool.not_eq_false] at goes
  exact longest.head d first (.word start (List.forall_mem_append.2 ⟨word, by simpa using goes⟩))

end Longest

theorem Scan.toInt_number {k : ℕ} (small : (k : ℤ) ≤ Int64.maxValue.toInt) :
    (Int64.ofNat k).toInt = k :=
  Int64.toInt_ofNat_of_lt (by
    have most : Int64.maxValue.toInt = 2 ^ 63 - 1 := rfl
    omega)

namespace Scans

variable {cs : List Char} {s : Scan}

theorem lexes (scans : Scans cs s) (whole : s.stop = none) : Lexes cs s.tokens := by
  induction scans with
  | nil => exact .nil
  | blank blank _ ih => exact .blank blank (ih whole)
  | token spelled longest _ ih => exact .token spelled longest (ih whole)
  | fault => cases whole

theorem of_lexes {ts : List Token} (lexes : Lexes cs ts) : Scans cs ⟨ts, none⟩ := by
  induction lexes with
  | nil => exact .nil
  | blank blank _ ih => exact .blank blank ih
  | token spelled longest _ ih => exact .token spelled longest ih

theorem numbers (scans : Scans cs s) : ∀ n, .number n ∈ s.tokens → n ≠ Int64.minValue := by
  induction scans with
  | nil => simp
  | blank _ _ ih => exact ih
  | fault => simp [Scan.halt]
  | @token t w cs s spelled _ _ ih =>
    intro n inside
    rcases List.mem_cons.1 inside with rfl | later
    · cases spelled with
      | number some digits small =>
        intro smallest
        have most : Int64.maxValue.toInt = 2 ^ 63 - 1 := rfl
        have value := Scan.toInt_number (k := Nat.ofDigitChars 10 w 0) (by omega)
        rw [smallest] at value
        exact absurd value (by rw [show Int64.minValue.toInt = -2 ^ 63 from rfl]; omega)
    · exact ih n later

end Scans

/-! ## The scanner -/

theorem Token.ofSymbol?_eq_some {c : Char} {t : Token} (found : Token.ofSymbol? c = some t) :
    c ∈ ['+', '-', '*', '/', '(', ')'] ∧ t.Spelled [c] := by
  unfold Token.ofSymbol? at found
  split at found <;> cases found
  · exact ⟨by simp, .op .add⟩
  · exact ⟨by simp, .op .sub⟩
  · exact ⟨by simp, .op .mul⟩
  · exact ⟨by simp, .op .div⟩
  · exact ⟨by simp, .leftParen⟩
  · exact ⟨by simp, .rightParen⟩

theorem Token.ofSymbol?_eq_none {c : Char} (other : c ∉ ['+', '-', '*', '/', '(', ')']) :
    Token.ofSymbol? c = none := by
  by_contra symbol
  obtain ⟨t, symbol⟩ := Option.ne_none_iff_exists'.1 symbol
  exact other (Token.ofSymbol?_eq_some symbol).1

namespace Scan

theorem not_run {p : Char → Bool} {cs v : List Char} (some : v ≠ []) (starts : v <+: cs)
    (stops : ∀ c ∈ cs.head?, p c = false) (all : ∀ c ∈ v, p c) : False := by
  obtain ⟨c, rest, rfl⟩ := List.exists_cons_of_ne_nil some
  obtain ⟨after, rfl⟩ := starts
  have first := stops c rfl
  rw [all c List.mem_cons_self] at first
  cases first

theorem cons_eq_append (p : Char → Bool) (c : Char) (cs : List Char) :
    c :: cs = c :: cs.takeWhile p ++ cs.dropWhile p := by
  rw [List.cons_append, List.takeWhile_append_dropWhile]

theorem isDigit_of_mem {c d : Char} {cs : List Char} (digit : c.isDigit)
    (inside : d ∈ c :: cs.takeWhile Char.isDigit) :
    d.isDigit := by
  rcases List.mem_cons.1 inside with rfl | inside
  · exact digit
  · exact List.mem_takeWhile_imp inside

theorem longest_of_symbol {c : Char} {cs : List Char}
    (symbol : c ∈ ['+', '-', '*', '/', '(', ')']) :
    Longest [c] cs := fun _ more _ piece => more (piece.eq_nil_of_symbol symbol)

theorem longest_of_digits {c : Char} {cs : List Char} (digit : c.isDigit) :
    Longest (c :: cs.takeWhile Char.isDigit) (cs.dropWhile Char.isDigit) := by
  intro v more starts piece
  have longer := piece.digits_of_isDigit digit
  exact not_run more starts Text.head_dropWhile fun d inside =>
    longer d (List.mem_append_right _ inside)

theorem longest_of_word {c : Char} {cs : List Char} (start : isWordStart c) :
    Longest (c :: cs.takeWhile isWordChar) (cs.dropWhile isWordChar) := by
  intro v more starts piece
  have longer := piece.word_of_isWordStart start
  exact not_run more starts Text.head_dropWhile fun d inside =>
    longer d (List.mem_append_right _ inside)

/-- A character that is no symbol, no digit and no start of a word begins no piece. -/
theorem not_piece {c : Char} (noSymbol : Token.ofSymbol? c = none) (noDigit : ¬c.isDigit)
    (noStart : ¬isWordStart c) (v : List Char) : ¬Piece (c :: v) := by
  intro piece
  cases piece with
  | symbol symbol =>
    simp only [List.mem_cons, List.not_mem_nil, or_false] at symbol
    rcases symbol with rfl | rfl | rfl | rfl | rfl | rfl <;> cases noSymbol
  | digits some digits => exact noDigit (digits c List.mem_cons_self)
  | word start word => exact noStart start

/-- The scanner cuts the text by maximal munch. -/
theorem scans_ofChars (cs : List Char) : Scans cs (ofChars cs) := by
  have most : Int64.maxValue.toInt = 2 ^ 63 - 1 := rfl
  fun_induction ofChars cs with
  | case1 => exact .nil
  | case2 c cs blank ih => exact .blank blank ih
  | case3 c cs notBlank t found ih =>
    obtain ⟨symbol, spelled⟩ := Token.ofSymbol?_eq_some found
    exact .token spelled (longest_of_symbol symbol) ih
  | case4 c cs notBlank none digit digits n small ih =>
    rw [cons_eq_append Char.isDigit c cs]
    exact .token (.number (by simp) (fun d => isDigit_of_mem digit) (by omega))
      (longest_of_digits digit) ih
  | case5 c cs notBlank none digit digits n large =>
    have tooLarge : 2 ^ 63 - 1 < Nat.ofDigitChars 10 digits 0 := by omega
    rw [cons_eq_append Char.isDigit c cs]
    exact .fault (.number (by simp) (fun d => isDigit_of_mem digit) tooLarge)
      (longest_of_digits digit)
  | case6 c cs notBlank none notDigit start word isX ih =>
    have single : word = [c] ∧ (c = 'x' ∨ c = 'X') := by
      rcases isX with same | same
      · obtain ⟨rfl, -⟩ := List.cons.inj same
        exact ⟨same, .inl rfl⟩
      · obtain ⟨rfl, -⟩ := List.cons.inj same
        exact ⟨same, .inr rfl⟩
    have cut : c :: cs = word ++ cs.dropWhile isWordChar := cons_eq_append isWordChar c cs
    have longest : Longest word (cs.dropWhile isWordChar) := longest_of_word start
    rw [single.1] at cut longest
    rw [cut]
    exact .token (.var single.2) longest ih
  | case7 c cs notBlank none notDigit start word notX =>
    rw [cons_eq_append isWordChar c cs]
    exact .fault (.word start (fun d => List.mem_takeWhile_imp) notX) (longest_of_word start)
  | case8 c cs notBlank none notDigit notStart =>
    have free := not_piece none notDigit notStart
    exact .fault (.char (by simpa using notBlank) free) fun v _ _ => free v

/-- What may follow a number or a word without becoming a part of it. -/
def Delimits (rest : List Char) : Prop := ∀ c ∈ rest.head?, c.isDigit = false ∧ isWordChar c = false

theorem delimits_cons {c : Char} (digit : c.isDigit = false) (word : isWordChar c = false)
    (rest : List Char) :
    Delimits (c :: rest) := by
  intro d first
  cases first
  exact ⟨digit, word⟩

theorem ofChars_blank {c : Char} (blank : Text.isBlank c) (rest : List Char) :
    ofChars (c :: rest) = ofChars rest := by
  rw [ofChars, if_pos blank]

theorem ofChars_blanks {before : List Char} (blank : ∀ c ∈ before, Text.isBlank c)
    (cs : List Char) :
    ofChars (before ++ cs) = ofChars cs := by
  induction before with
  | nil => rfl
  | cons c before ih =>
    obtain ⟨first, later⟩ := List.forall_mem_cons.1 blank
    rw [List.cons_append, ofChars_blank first, ih later]

theorem ofChars_symbol {c : Char} {t : Token} (symbol : Token.ofSymbol? c = some t)
    (notBlank : Text.isBlank c = false) (rest : List Char) :
    ofChars (c :: rest) = (ofChars rest).push t := by
  rw [ofChars, if_neg (by simp [notBlank]), symbol]

theorem ofChars_operator (op : Operator) (rest : List Char) :
    ofChars (op.symbol :: rest) = (ofChars rest).push (.op op) := by
  cases op <;> exact ofChars_symbol rfl (by decide) rest

theorem ofChars_digits {cs rest : List Char} (some : cs ≠ []) (digits : ∀ c ∈ cs, c.isDigit)
    (stops : ∀ c ∈ rest.head?, c.isDigit = false) :
    ofChars (cs ++ rest) =
      if Nat.ofDigitChars 10 cs 0 ≤ Int64.maxValue.toInt then
        (ofChars rest).push (.number (Int64.ofNat (Nat.ofDigitChars 10 cs 0)))
      else halt (.invalidNumber (String.ofList cs)) := by
  obtain ⟨c, cs, rfl⟩ := List.exists_cons_of_ne_nil some
  obtain ⟨digit, later⟩ := List.forall_mem_cons.1 digits
  obtain ⟨took, dropped⟩ := Text.takeWhile_of_head stops
  have noSymbol : Token.ofSymbol? c = none :=
    Token.ofSymbol?_eq_none fun symbol => by simp [(Piece.not_symbol symbol).1] at digit
  rw [List.cons_append, ofChars, if_neg (by simp [Text.isBlank_of_isDigit digit]), noSymbol]
  dsimp only
  rw [if_pos digit, List.takeWhile_append_of_pos later, List.dropWhile_append_of_pos later,
    took, dropped, List.append_nil]

theorem ofChars_natural (n : ℕ) {rest : List Char} (stops : ∀ c ∈ rest.head?, c.isDigit = false) :
    ofChars (Numeral.natural n ++ rest) =
      if n ≤ Int64.maxValue.toInt then (ofChars rest).push (.number (Int64.ofNat n))
      else halt (.invalidNumber (String.ofList (Numeral.natural n))) := by
  rw [ofChars_digits (Numeral.natural_ne_nil n) (fun c => Numeral.isDigit_of_mem_natural) stops,
    show Nat.ofDigitChars 10 (Numeral.natural n) 0 = n from Nat.ofDigitChars_ten_toDigits]

theorem ofChars_var {c : Char} (name : c = 'x' ∨ c = 'X') {rest : List Char}
    (stops : ∀ d ∈ rest.head?, isWordChar d = false) :
    ofChars (c :: rest) = (ofChars rest).push .var := by
  obtain ⟨took, dropped⟩ := Text.takeWhile_of_head stops
  have letter : Text.isBlank c = false ∧ Token.ofSymbol? c = none ∧ c.isDigit = false ∧
      isWordStart c = true := by
    rcases name with rfl | rfl <;> decide
  have named : [c] = ['x'] ∨ [c] = ['X'] := by simpa using name
  rw [ofChars, if_neg (by simp [letter.1]), letter.2.1]
  dsimp only
  rw [if_neg (by simp [letter.2.2.1]), if_pos letter.2.2.2, took, dropped, if_pos named]

theorem isWordChar_of_isWordStart {c : Char} (start : isWordStart c) : isWordChar c := by
  simp only [isWordStart, isWordChar, Text.isAlphanumeric, Bool.or_eq_true] at start ⊢
  exact start.imp_left .inl

theorem isWordChar_of_isBlank {c : Char} (blank : Text.isBlank c) : isWordChar c = false := by
  have letter : Text.isAlphabetic c = false :=
    Text.inRanges_eq_false_of_apart (by decide +kernel) blank
  have number : Text.inRanges Text.numericRanges c.toNat = false :=
    Text.inRanges_eq_false_of_apart (by decide +kernel) blank
  have underscore : c ≠ '_' := by
    rintro rfl
    exact absurd blank (by decide)
  simp [isWordChar, Text.isAlphanumeric, letter, number, underscore]

theorem isBlank_of_isWordStart {c : Char} (start : isWordStart c) : Text.isBlank c = false := by
  by_contra blank
  have noWord := isWordChar_of_isBlank (by simpa using blank)
  rw [isWordChar_of_isWordStart start] at noWord
  cases noWord

theorem delimits_of_blank {rest : List Char} (blank : ∀ c ∈ rest, Text.isBlank c) :
    Delimits rest := by
  intro c first
  have here := blank c (List.mem_of_mem_head? first)
  refine ⟨?_, isWordChar_of_isBlank here⟩
  by_contra digit
  rw [Text.isBlank_of_isDigit (by simpa using digit)] at here
  cases here

theorem ofChars_append {after : List Char} (blank : ∀ c ∈ after, Text.isBlank c) (cs : List Char) :
    ofChars (cs ++ after) = ofChars cs := by
  have ends := delimits_of_blank blank
  fun_induction ofChars cs with
  | case1 => rw [List.nil_append, ← List.append_nil after, ofChars_blanks blank, ofChars]
  | case2 c cs first ih => rw [List.cons_append, ofChars_blank first, ih]
  | case3 c cs notBlank t found ih =>
    rw [List.cons_append, ofChars_symbol found (by simpa using notBlank), ih]
  | case4 c cs notBlank none digit digits n small ih =>
    obtain ⟨took, dropped⟩ := Text.takeWhile_append_of_head cs fun d first => (ends d first).1
    rw [List.cons_append, ofChars, if_neg notBlank, none]
    dsimp only
    rw [if_pos digit, took, dropped, if_pos small, ih]
  | case5 c cs notBlank none digit digits n large =>
    obtain ⟨took, -⟩ := Text.takeWhile_append_of_head cs fun d first => (ends d first).1
    rw [List.cons_append, ofChars, if_neg notBlank, none]
    dsimp only
    rw [if_pos digit, took, if_neg large]
  | case6 c cs notBlank none notDigit start word isX ih =>
    obtain ⟨took, dropped⟩ := Text.takeWhile_append_of_head cs fun d first => (ends d first).2
    rw [List.cons_append, ofChars, if_neg notBlank, none]
    dsimp only
    rw [if_neg notDigit, if_pos start, took, dropped, if_pos isX, ih]
  | case7 c cs notBlank none notDigit start word notX =>
    obtain ⟨took, -⟩ := Text.takeWhile_append_of_head cs fun d first => (ends d first).2
    rw [List.cons_append, ofChars, if_neg notBlank, none]
    dsimp only
    rw [if_neg notDigit, if_pos start, took, if_neg notX]
  | case8 c cs notBlank none notDigit notStart =>
    rw [List.cons_append, ofChars, if_neg notBlank, none]
    dsimp only
    rw [if_neg notDigit, if_neg notStart]

theorem ofChars_trim (cs : List Char) : ofChars (Text.trim cs) = ofChars cs := by
  obtain ⟨before, after, left, right, same⟩ := (Text.trimmed_trim cs).padded
  conv_rhs => rw [same, ofChars_append right, ofChars_blanks left]

theorem ofChars_spelled {t : Token} {w cs : List Char} (spelled : t.Spelled w)
    (longest : Longest w cs) :
    ofChars (w ++ cs) = (ofChars cs).push t := by
  cases spelled with
  | op o => exact ofChars_operator o cs
  | leftParen => exact ofChars_symbol rfl (by decide) cs
  | rightParen => exact ofChars_symbol rfl (by decide) cs
  | @var c name =>
    have start : isWordStart c = true := by rcases name with rfl | rfl <;> decide
    exact ofChars_var name (longest.word_stops start (by simp))
  | number some digits small =>
    have most : Int64.maxValue.toInt = 2 ^ 63 - 1 := rfl
    rw [ofChars_digits some digits (longest.digits_stop digits), if_pos (by omega)]

theorem ofChars_fault {w cs : List Char} {x : ExprError} (fault : Fault w x)
    (longest : Longest w cs) :
    ofChars (w ++ cs) = halt x := by
  cases fault with
  | @char c solid none =>
    have noSymbol : Token.ofSymbol? c = Option.none :=
      Token.ofSymbol?_eq_none fun symbol => none [] (.symbol symbol)
    have noDigit : ¬c.isDigit := fun digit => none [] (.digits (by simp) (by simpa using digit))
    have noStart : ¬isWordStart c := fun start => none [] (.word start (by simp))
    rw [List.singleton_append, ofChars, if_neg (by simp [solid]), noSymbol]
    dsimp only
    rw [if_neg noDigit, if_neg noStart]
  | @word c w start word unknown =>
    obtain ⟨took, -⟩ := Text.takeWhile_of_head (longest.word_stops start word)
    have notDigit := Piece.isDigit_of_isWordStart start
    have noSymbol : Token.ofSymbol? c = none :=
      Token.ofSymbol?_eq_none fun symbol => by simp [(Piece.not_symbol symbol).2.1] at start
    rw [List.cons_append, ofChars, if_neg (by simp [isBlank_of_isWordStart start]), noSymbol]
    dsimp only
    rw [if_neg (by simp [notDigit]), if_pos start, List.takeWhile_append_of_pos word, took,
      List.append_nil, if_neg unknown]
  | number some digits large =>
    have most : Int64.maxValue.toInt = 2 ^ 63 - 1 := rfl
    rw [ofChars_digits some digits (longest.digits_stop digits), if_neg (by omega)]

theorem ofChars_of_scans {cs : List Char} {s : Scan} (scans : Scans cs s) : ofChars cs = s := by
  induction scans with
  | nil => rw [ofChars]
  | blank blank _ ih => rw [ofChars_blank blank, ih]
  | token spelled longest _ ih => rw [ofChars_spelled spelled longest, ih]
  | fault fault longest => exact ofChars_fault fault longest

theorem ofChars_eq_iff {cs : List Char} {s : Scan} : ofChars cs = s ↔ Scans cs s :=
  ⟨fun found => found ▸ scans_ofChars cs, ofChars_of_scans⟩

/-- The tokens that the scanner finds are those that the text is cut into. -/
theorem lexes_of_stop {cs : List Char} (whole : (ofChars cs).stop = none) :
    Lexes cs (ofChars cs).tokens :=
  (scans_ofChars cs).lexes whole

theorem ofChars_of_lexes {cs : List Char} {ts : List Token} (lexes : Lexes cs ts) :
    ofChars cs = ⟨ts, none⟩ :=
  ofChars_eq_iff.2 (.of_lexes lexes)

/-- No token of a text is the smallest number, which needs a sign. -/
theorem numbers (cs : List Char) : ∀ n, .number n ∈ (ofChars cs).tokens → n ≠ Int64.minValue :=
  (scans_ofChars cs).numbers

end Scan

end CellularAutomaton
