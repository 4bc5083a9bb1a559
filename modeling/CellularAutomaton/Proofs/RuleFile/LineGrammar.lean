import CellularAutomaton.Proofs.Expr.Grammar
import CellularAutomaton.RuleFile.RuleLine

/-!
# The grammar of rule lines

A rule line is written in one of four ways. The reader cuts it at its first arrow, at the first
blank before that and at the colons after this blank, and none of these places can be missed: a
number holds no arrow, no blank and no colon. So the reader accepts the lines that are written in
one of these ways.
-/

namespace CellularAutomaton

open Text

/-! ## Numbers among blanks -/

/-- A number with blanks around it. -/
def Reads {α : Type} (read? : List Char → Option α) (cs : List Char) (a : α) : Prop :=
  ∃ ds, Trimmed cs ds ∧ read? ds = some a

section

variable {α : Type} {read? : List Char → Option α} {cs : List Char} {a : α}

theorem reads_iff : Reads read? cs a ↔ read? (trim cs) = some a := by
  constructor
  · rintro ⟨ds, trimmed, read⟩
    rwa [trim_eq_iff.2 trimmed]
  · exact fun read => ⟨_, trimmed_trim cs, read⟩

theorem reads_trim : Reads read? (trim cs) a ↔ Reads read? cs a := by
  rw [reads_iff, reads_iff, trim_of_bare (trimmed_trim cs).bare]

theorem Reads.of_bare (bare : Bare cs) (read : read? cs = some a) : Reads read? cs a := by
  rwa [reads_iff, trim_of_bare bare]

theorem Reads.cons (reads : Reads read? cs a) {c : Char} (blank : isBlank c) :
    Reads read? (c :: cs) a := by
  rwa [reads_iff, trim, trimStart, List.dropWhile_cons_of_pos blank, ← trimStart, ← trim,
    ← reads_iff]

theorem Reads.append (reads : Reads read? cs a) {after : List Char}
    (blank : ∀ c ∈ after, isBlank c) :
    Reads read? (cs ++ after) a := by
  rwa [reads_iff, trim_append blank, ← reads_iff]

theorem readField_eq_ok_iff {field : NumberField} {line : ℕ} :
    readField read? field line cs = .ok a ↔ Reads read? cs a := by
  rw [reads_iff, readField]
  cases read? (trim cs) <;> simp

end

theorem Text.Trimmed.free {cs ds : List Char} (trimmed : Trimmed cs ds)
    (digital : Numeral.Digital ds) :
    '>' ∉ cs ∧ ':' ∉ cs := by
  obtain ⟨-, before, after, left, right, rfl⟩ := trimmed
  have other : ∀ c ∈ ['>', ':'], c ∉ before ++ ds ++ after := by
    intro c sign inside
    have solid : isBlank c = false ∧ ¬(c = '-' ∨ c = '+' ∨ c.isDigit) :=
      forall_mem_of_all (p := fun c => isBlank c = false ∧ ¬(c = '-' ∨ c = '+' ∨ c.isDigit))
        (by decide) c sign
    have blank : ¬isBlank c := by simp [solid.1]
    rcases List.mem_append.1 inside with inside | inside
    · rcases List.mem_append.1 inside with inside | inside
      · exact blank (left c inside)
      · exact solid.2 (digital.digital c inside)
    · exact blank (right c inside)
  exact ⟨other '>' (by simp), other ':' (by simp)⟩

theorem Reads.free_int32 {cs : List Char} {s : State} (reads : Reads Numeral.readInt32? cs s) :
    '>' ∉ cs ∧ ':' ∉ cs := by
  obtain ⟨ds, trimmed, read⟩ := reads
  exact trimmed.free (.of_readInt32? read)

theorem Reads.free_uint32 {cs : List Char} {u : UInt32} (reads : Reads Numeral.readUInt32? cs u) :
    '>' ∉ cs ∧ ':' ∉ cs := by
  obtain ⟨ds, trimmed, read⟩ := reads
  exact trimmed.free (.of_readUInt32? read)

namespace Comparison

theorem ofKeyword?_eq_some_iff {cs : List Char} {c : Comparison} :
    ofKeyword? cs = some c ↔ cs = c.keyword := by
  constructor
  · intro found
    unfold ofKeyword? at found
    have same := List.find?_some found
    exact (of_decide_eq_true same).symm
  · rintro rfl
    cases c <;> decide

theorem isBlank_of_mem_keyword {c : Comparison} : ∀ d ∈ c.keyword, isBlank d = false :=
  forall_mem_of_all (by cases c <;> decide)

end Comparison

namespace RuleLine

/-- The four ways to write a rule line. -/
inductive Written : List Char → RuleLine → Prop
  | simple {source target : List Char} {s t : State} (first : Reads Numeral.readInt32? source s)
      (last : Reads Numeral.readInt32? target t) :
      Written (source ++ '-' :: '>' :: target) (.simple ⟨s, t⟩)
  | neighbor {c : Comparison} {b : Char} {threshold neighbor target : List Char} {u : UInt32}
      {n t : State} (blank : isBlank b) (first : Reads Numeral.readUInt32? threshold u)
      (second : Reads Numeral.readInt32? neighbor n) (last : Reads Numeral.readInt32? target t) :
      Written (c.keyword ++ b :: (threshold ++ ':' :: neighbor) ++ '-' :: '>' :: target)
        (.neighbor ⟨c, u, n, none, t⟩)
  | neighborFrom {c : Comparison} {b : Char} {threshold neighbor source target : List Char}
      {u : UInt32} {n s t : State} (blank : isBlank b)
      (first : Reads Numeral.readUInt32? threshold u) (second : Reads Numeral.readInt32? neighbor n)
      (third : Reads Numeral.readInt32? source s) (last : Reads Numeral.readInt32? target t) :
      Written (c.keyword ++ b :: (threshold ++ ':' :: neighbor ++ ':' :: source) ++ '-' ::
        '>' :: target)
        (.neighbor ⟨c, u, n, some s, t⟩)
  | fallback {blanks text : List Char} {ts : List Token} {e : Expr}
      (blank : ∀ c ∈ blanks, isBlank c) (lexes : Lexes text ts) (derives : Derives .sum ts e) :
      Written (defaultKeyword ++ blanks ++ '-' :: '>' :: text) (.fallback e)

/-! ## What each part of the reader accepts -/

/-- Reads the state that a neighbor rule is restricted to, if there is one. -/
def readSource (line : ℕ) : Option (List Char) → Except RuleFileError (Option State)
  | some cs => (readState .sourceState line cs).map some
  | none => .ok none

theorem readSource_eq_ok_iff {line : ℕ} {source : Option (List Char)} {s : Option State} :
    readSource line source = .ok s ↔ Option.Rel (Reads Numeral.readInt32?) source s := by
  cases source with
  | none => cases s <;> simp [readSource]
  | some cs =>
    rw [readSource, map_eq_ok]
    cases s with
    | none => simp
    | some a => simp [readState, readField_eq_ok_iff]

theorem readNeighbor_eq (line : ℕ) (c : Comparison) (threshold neighbor : List Char)
    (source : Option (List Char)) (target : List Char) :
    readNeighbor line c threshold neighbor source target =
      (readField Numeral.readUInt32? .threshold line threshold >>= fun u =>
        readState .neighborState line neighbor >>= fun n => readSource line source >>= fun s =>
          readState .targetState line target >>= fun t => .ok (.neighbor ⟨c, u, n, s, t⟩)) := by
  cases source <;> rfl

theorem readNeighbor_eq_ok_iff {line : ℕ} {c : Comparison} {threshold neighbor target : List Char}
    {source : Option (List Char)} {r : RuleLine} :
    readNeighbor line c threshold neighbor source target = .ok r ↔
      ∃ u n s t, Reads Numeral.readUInt32? threshold u ∧ Reads Numeral.readInt32? neighbor n ∧
        Option.Rel (Reads Numeral.readInt32?) source s ∧ Reads Numeral.readInt32? target t ∧
        r = .neighbor ⟨c, u, n, s, t⟩ := by
  simp only [readNeighbor_eq, bind_eq_ok, readState, readField_eq_ok_iff, readSource_eq_ok_iff,
    Except.ok.injEq]
  constructor
  · rintro ⟨u, first, n, second, s, third, t, last, same⟩
    exact ⟨u, n, s, t, first, second, third, last, same.symm⟩
  · rintro ⟨u, n, s, t, first, second, third, last, same⟩
    exact ⟨u, first, n, second, s, third, t, last, same.symm⟩

theorem readCondition_eq_ok_iff {line : ℕ} {condition target : List Char} {r : RuleLine} :
    readCondition line condition target = .ok r ↔
      ∃ c b fields threshold neighbor source, isBlank b ∧ condition = c.keyword ++ b :: fields ∧
        Separated ':' (threshold :: neighbor :: Option.toList source) fields ∧
        readNeighbor line c threshold neighbor source target = .ok r := by
  constructor
  · intro read
    unfold readCondition at read
    split at read
    · cases read
    · next keyword fields cut =>
      obtain ⟨-, b, blank, rfl⟩ := cutWhere_eq_some_iff.1 cut
      split at read
      · next c threshold neighbor known separated =>
        obtain rfl := Comparison.ofKeyword?_eq_some_iff.1 known
        exact ⟨c, b, fields, threshold, neighbor, none, blank, rfl,
          splitOn_eq_iff.1 separated, read⟩
      · next c threshold neighbor source known separated =>
        obtain rfl := Comparison.ofKeyword?_eq_some_iff.1 known
        exact ⟨c, b, fields, threshold, neighbor, some source, blank, rfl,
          splitOn_eq_iff.1 separated, read⟩
      · cases read
  · rintro ⟨c, b, fields, threshold, neighbor, source, blank, rfl, separated, read⟩
    rw [readCondition, cutWhere_append Comparison.isBlank_of_mem_keyword blank]
    dsimp only
    rw [Comparison.ofKeyword?_eq_some_iff.2 rfl, splitOn_eq_iff.2 separated]
    cases source <;> exact read

/-- A condition on neighbors is neither a number nor the word of a default rule. -/
theorem readSides_condition {c : Comparison} {b : Char} (blank : isBlank b) (line : ℕ)
    (fields target : List Char) :
    readSides line (c.keyword ++ b :: fields) target =
      readCondition line (c.keyword ++ b :: fields) target := by
  have notDefault : c.keyword ++ b :: fields ≠ defaultKeyword := by
    intro same
    have solid : ∀ d ∈ defaultKeyword, isBlank d = false := forall_mem_of_all (by decide)
    rw [solid b (by simp [← same])] at blank
    cases blank
  have notNumber : Numeral.readInt32? (c.keyword ++ b :: fields) = none := by
    by_contra read
    obtain ⟨s, read⟩ := Option.ne_none_iff_exists'.1 read
    have digital := (Numeral.Digital.of_readInt32? read).digital
    cases c <;> exact absurd (digital _ List.mem_cons_self) (by decide)
  rw [readSides, if_neg notDefault, notNumber]

theorem readSides_eq_ok_iff {line : ℕ} {source target : List Char} {r : RuleLine} :
    readSides line source target = .ok r ↔
      (source = defaultKeyword ∧ ∃ e, Expr.ofChars target = .ok e ∧ r = .fallback e) ∨
      (∃ s t, Numeral.readInt32? source = some s ∧ Reads Numeral.readInt32? target t ∧
        r = .simple ⟨s, t⟩) ∨
      readCondition line source target = .ok r := by
  constructor
  · intro read
    unfold readSides at read
    split_ifs at read with keyword
    · split at read
      · next e parsed =>
        cases read
        exact .inl ⟨keyword, e, parsed, rfl⟩
      · cases read
    · split at read
      · next s number =>
        obtain ⟨t, last, rfl⟩ := map_eq_ok.1 read
        exact .inr (.inl ⟨s, t, number, readField_eq_ok_iff.1 last, rfl⟩)
      · exact .inr (.inr read)
  · rintro (⟨rfl, e, parsed, rfl⟩ | ⟨s, t, number, last, rfl⟩ | read)
    · rw [readSides, if_pos rfl, parsed]
    · have notDefault : source ≠ defaultKeyword := by
        rintro rfl
        cases number
      rw [readSides, if_neg notDefault, number]
      exact map_eq_ok.2 ⟨t, readField_eq_ok_iff.2 last, rfl⟩
    · obtain ⟨c, b, fields, -, -, -, blank, rfl, -⟩ := readCondition_eq_ok_iff.1 read
      rwa [readSides_condition blank]

theorem read_arrow {before : List Char} (free : '>' ∉ before) (line : ℕ) (after : List Char) :
    read line (before ++ '-' :: '>' :: after) = readSides line (trim before) (trim after) := by
  rw [read, cutAtPair_append (by decide) free]

/-! ## What is written is read -/

/-- The blanks at the end of a condition follow its last number. -/
theorem read_of_condition {c : Comparison} {b : Char} {front last : List Char} {s : State}
    (blank : isBlank b) (free : '>' ∉ front) (reads : Reads Numeral.readInt32? last s) (line : ℕ)
    (target : List Char) :
    ∃ last', Reads Numeral.readInt32? last' s ∧
      read line (c.keyword ++ b :: (front ++ last) ++ '-' :: '>' :: target) =
      readCondition line (c.keyword ++ b :: (front ++ last')) (trim target) := by
  have first : '>' ∉ c.keyword ++ b :: (front ++ last) := by
    have keyword : '>' ∉ c.keyword := by cases c <;> decide
    have notBlank : '>' ≠ b := by
      rintro rfl
      exact absurd blank (by decide)
    simp [keyword, notBlank, free, reads.free_int32.1]
  obtain ⟨ds, ⟨bare, before, after, left, right, rfl⟩, number⟩ := reads
  refine ⟨before ++ ds, ⟨ds, ⟨bare, before, [], left, by simp, (List.append_nil _).symm⟩, number⟩,
    ?_⟩
  have keyword : Bare c.keyword := .of_forall Comparison.isBlank_of_mem_keyword
  have whole : trim (c.keyword ++ b :: (front ++ (before ++ ds ++ after))) =
      c.keyword ++ b :: (front ++ (before ++ ds)) := by
    refine trim_eq_iff.2 ⟨?_, [], after, by simp, right, by simp⟩
    have ends := keyword.append bare (by cases c <;> decide)
      (Numeral.Digital.of_readInt32? number).nonempty
      (b :: (front ++ before))
    simpa using ends
  rw [read_arrow first, whole, readSides_condition blank]

theorem Written.read_eq {text : List Char} {r : RuleLine} (written : Written text r) (line : ℕ) :
    read line text = .ok r := by
  cases written with
  | @simple source target s t first last =>
    rw [read_arrow first.free_int32.1]
    exact readSides_eq_ok_iff.2 (.inr (.inl ⟨s, t, reads_iff.1 first, reads_trim.2 last, rfl⟩))
  | @neighbor c b threshold neighbor target u n t blank first second last =>
    have free : '>' ∉ threshold ++ [':'] := by simp [first.free_uint32.1]
    obtain ⟨neighbor', second', same⟩ := read_of_condition (c := c) blank free second line target
    rw [List.append_cons threshold, same]
    refine readCondition_eq_ok_iff.2
      ⟨c, b, _, threshold, neighbor', none, blank, rfl, ⟨by simp, ?_, by simp⟩, ?_⟩
    · simp [first.free_uint32.2, second'.free_int32.2]
    · exact readNeighbor_eq_ok_iff.2 ⟨u, n, none, t, first, second', .none, reads_trim.2 last, rfl⟩
  | @neighborFrom c b threshold neighbor source target u n s t blank first second third last =>
    have free : '>' ∉ threshold ++ ':' :: neighbor ++ [':'] := by
      simp [first.free_uint32.1, second.free_int32.1]
    obtain ⟨source', third', same⟩ := read_of_condition (c := c) blank free third line target
    rw [List.append_cons _ ':' source, same]
    refine readCondition_eq_ok_iff.2
      ⟨c, b, _, threshold, neighbor, some source', blank, rfl, ⟨by simp, ?_, by simp⟩, ?_⟩
    · simp [first.free_uint32.2, second.free_int32.2, third'.free_int32.2]
    · exact readNeighbor_eq_ok_iff.2
        ⟨u, n, some s, t, first, second, .some third', reads_trim.2 last, rfl⟩
  | @fallback blanks text ts e blank lexes derives =>
    have free : '>' ∉ defaultKeyword ++ blanks := by
      have notBlank : '>' ∉ blanks := fun inside => absurd (blank '>' inside) (by decide)
      rw [List.mem_append, not_or]
      exact ⟨by decide, notBlank⟩
    have keyword : trim (defaultKeyword ++ blanks) = defaultKeyword :=
      trim_eq_iff.2 ⟨.of_forall (forall_mem_of_all (by decide)), [], blanks, by simp, blank, rfl⟩
    have parsed : Expr.ofChars (trim text) = .ok e := by
      rw [Expr.ofChars, Scan.ofChars_trim]
      exact Expr.ofChars_eq_ok_iff.2 ⟨ts, lexes, derives⟩
    rw [read_arrow free, keyword]
    exact readSides_eq_ok_iff.2 (.inl ⟨rfl, e, parsed, rfl⟩)

/-! ## What is read is written -/

/-- The lines that are read are those that are written in one of the four ways. -/
theorem read_eq_ok_iff {text : List Char} (solid : ∀ c ∈ text.head?, isBlank c = false) {line : ℕ}
    {r : RuleLine} :
    read line text = .ok r ↔ Written text r := by
  refine ⟨fun read => ?_, fun written => written.read_eq line⟩
  unfold RuleLine.read at read
  split at read
  · cases read
  · next before after cut =>
    obtain ⟨rfl, -⟩ := cutAtPair_eq_some_iff.1 cut
    obtain ⟨blanks, blank, same⟩ := exists_eq_trim_append fun c first =>
      solid c (by rw [List.head?_append, Option.mem_def.1 first]; rfl)
    obtain ⟨keyword, e, parsed, rfl⟩ | ⟨s, t, number, last, rfl⟩ | condition :=
      readSides_eq_ok_iff.1 read
    · rw [Expr.ofChars, Scan.ofChars_trim] at parsed
      obtain ⟨ts, lexes, derives⟩ := Expr.ofChars_eq_ok_iff.1 parsed
      rw [same, keyword]
      exact .fallback blank lexes derives
    · exact .simple (reads_iff.2 number) (reads_trim.1 last)
    · obtain ⟨c, b, fields, threshold, neighbor, source, blank', sides, separated, numbers⟩ :=
        readCondition_eq_ok_iff.1 condition
      obtain ⟨u, n, s, t, first, second, third, last, rfl⟩ := readNeighbor_eq_ok_iff.1 numbers
      -- the blanks before the arrow belong to the last number of the condition
      cases third with
      | none =>
        have text : before = c.keyword ++ b :: (threshold ++ ':' :: (neighbor ++ blanks)) := by
          rw [same, sides, separated.text_eq]
          simp
        rw [text]
        exact .neighbor blank' first (second.append blank) (reads_trim.1 last)
      | @some source s third =>
        have text : before = c.keyword ++ b ::
            (threshold ++ ':' :: neighbor ++ ':' :: (source ++ blanks)) := by
          rw [same, sides, separated.text_eq]
          simp
        rw [text]
        exact .neighborFrom blank' first second (third.append blank) (reads_trim.1 last)

end RuleLine

end CellularAutomaton
