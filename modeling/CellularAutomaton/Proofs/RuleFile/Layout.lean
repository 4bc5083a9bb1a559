import CellularAutomaton.Proofs.RuleFile.FirstError
import CellularAutomaton.Proofs.Text.Layout

/-!
# The layout of rule files

Carriage returns, blanks at the ends of lines, comments, blanks around the commas of the header and
the case of the letters in rules do not matter: texts that differ in nothing else are read as the
same rule set, or refused with the same error. For of the first two lines only the trimmed fields
are looked at, and of a rule only its lower-case form.
-/

namespace CellularAutomaton

open Text

namespace RuleFile

/-! ## What is looked at of a line -/

/-- What is looked at of a line that has so many lines above it. -/
def lookedAt : ℕ → List Char → List (List Char)
  | 0, text | 1, text => trimmedFields ',' text
  | 2, text => [text]
  | _ + 3, text => [lowercase text]

theorem readField_trim {α : Type} (read? : List Char → Option α) (field : NumberField) (line : ℕ)
    (cs : List Char) :
    readField read? field line (trim cs) = readField read? field line cs := by
  rw [readField, readField, trim_trim]

theorem readStates_map_trim (seen : List State) (fields : List (List Char)) :
    readStates seen (fields.map trim) = readStates seen fields := by
  induction fields generalizing seen with
  | nil => rfl
  | cons field fields ih => simp only [List.map_cons, readStates, readState, readField_trim, ih]

theorem readProbabilities_map_trim (fields : List (List Char)) :
    readProbabilities (fields.map trim) = readProbabilities fields := by
  induction fields with
  | nil => rfl
  | cons field fields ih =>
    simp only [List.map_cons, readProbabilities, readProbability, readField_trim, ih]

theorem cases_of_mapIdx_eq {α β : Type} {f : ℕ → α → β} {l l' : List α}
    (same : l.mapIdx f = l'.mapIdx f) :
    (l = [] ∧ l' = []) ∨ ∃ a t a' t', l = a :: t ∧ l' = a' :: t' ∧ f 0 a = f 0 a' ∧
      t.mapIdx (fun i => f (i + 1)) = t'.mapIdx fun i => f (i + 1) := by
  cases l with
  | nil => exact .inl ⟨rfl, by simpa using same.symm⟩
  | cons a t =>
    cases l' with
    | nil => simp at same
    | cons a' t' =>
      rw [List.mapIdx_cons, List.mapIdx_cons] at same
      exact .inr ⟨a, t, a', t', rfl, rfl, List.cons.inj same⟩

section

variable {tolerance : Float} {states : List State} {ps : List Float} {ls ls' : List (List Char)}

theorem readRules_congr (same : ls.map lowercase = ls'.map lowercase) (line : ℕ)
    (hasDefault : Bool) (n : ℕ) :
    readRules line hasDefault n ls = readRules line hasDefault n ls' := by
  induction n generalizing line hasDefault ls ls' with
  | zero => rw [readRules, readRules]
  | succ n ih =>
    cases ls with
    | nil =>
      obtain rfl : ls' = [] := by simpa using same.symm
      rfl
    | cons text ls =>
      obtain ⟨text', ls', rfl, here, below⟩ := List.map_eq_cons_iff.1 same.symm
      simp only [readRules_cons, readRule, here, ih below.symm]

theorem mapIdx_lookedAt_rules (ls : List (List Char)) :
    ls.mapIdx (fun i => lookedAt (i + 3)) = (ls.map lowercase).map ([·]) := by
  induction ls with
  | nil => rfl
  | cons text ls ih =>
    rw [List.mapIdx_cons]
    exact congrArg ([lowercase text] :: ·) ih

theorem fromCount_congr (same : ls.mapIdx (fun i => lookedAt (i + 2)) = ls'.mapIdx fun i =>
    lookedAt (i + 2)) :
    fromCount states ps ls = fromCount states ps ls' := by
  obtain ⟨rfl, rfl⟩ | ⟨third, ls, third', ls', rfl, rfl, here, below⟩ := cases_of_mapIdx_eq same
  · rfl
  · obtain rfl : third = third' := List.singleton_inj.1 here
    rw [mapIdx_lookedAt_rules, mapIdx_lookedAt_rules] at below
    have rules := List.map_injective_iff.2 (fun _ _ => List.singleton_inj.1) below
    simp only [fromCount, readRules_congr rules]

theorem fromProbabilities_congr
    (same : ls.mapIdx (fun i => lookedAt (i + 1)) = ls'.mapIdx fun i => lookedAt (i + 1)) :
    fromProbabilities tolerance states ls = fromProbabilities tolerance states ls' := by
  obtain ⟨rfl, rfl⟩ | ⟨second, ls, second', ls', rfl, rfl, here, below⟩ := cases_of_mapIdx_eq same
  · rfl
  · have fields : readProbabilities (second.splitOn ',') =
      readProbabilities (second'.splitOn ',') := by
      rw [← readProbabilities_map_trim]
      exact (congrArg readProbabilities here).trans (readProbabilities_map_trim _)
    simp only [fromProbabilities, fields, fromCount_congr below]

theorem ofLines_congr (same : ls.mapIdx lookedAt = ls'.mapIdx lookedAt) :
    ofLines tolerance ls = ofLines tolerance ls' := by
  obtain ⟨rfl, rfl⟩ | ⟨first, ls, first', ls', rfl, rfl, here, below⟩ := cases_of_mapIdx_eq same
  · rfl
  · have fields : readStates [] (first.splitOn ',') = readStates [] (first'.splitOn ',') := by
      rw [← readStates_map_trim]
      exact (congrArg (readStates []) here).trans (readStates_map_trim _ _)
    simp only [ofLines_cons, fields, fromProbabilities_congr below]

end

/-! ## What lines say -/

section

variable {line code before after right rest : List Char}

theorem content_of_uncommented (uncommented : Uncommented line code) : content line = trim code :=
  content_eq_iff.2 ⟨code, uncommented, trimmed_trim code⟩

theorem content_append_left (blank : ∀ c ∈ before, isBlank c) :
    content (before ++ line) = content line := by
  obtain ⟨code, uncommented⟩ := exists_uncommented line
  have seam : before.getLast? ≠ some '/' :=
    fun last => slash_not_mem_of_blank blank (List.mem_of_mem_getLast? last)
  have added := uncommented.append_left (not_pair_infix_of_blank blank) fun last => absurd last seam
  rw [content_of_uncommented added, content_of_uncommented uncommented, trim_append_left blank]

/-- A blank has to come before a comment that is added, for the line may end with a slash. -/
theorem content_append_right (added : Uncommented after right) (starts : after.head? ≠ some '/')
    (blank : ∀ c ∈ right, isBlank c) : content (line ++ after) = content line := by
  obtain ⟨code, uncommented⟩ := exists_uncommented line
  obtain ⟨code', uncommented', same⟩ := uncommented.append_right added starts blank
  rw [content_of_uncommented uncommented', content_of_uncommented uncommented, same]

theorem content_append_blanks (blank : ∀ c ∈ after, isBlank c) :
    content (line ++ after) = content line :=
  content_append_right (.whole (not_pair_infix_of_blank blank)) (head_ne_slash_of_blank blank) blank

theorem content_append_remark (remark : List Char) :
    content (line ++ ' ' :: '/' :: '/' :: remark) = content line := by
  have cut : Uncommented ([' '] ++ '/' :: '/' :: remark) [' '] := .cut (by decide)
  exact content_append_right cut (by simp) (forall_mem_of_all (by decide))

theorem trimmedFields_content (outside : ¬['/', '/'] <:+: code) :
    trimmedFields ',' (content (code ++ ',' :: rest)) =
    trimmedFields ',' code ++ trimmedFields ',' (content rest) := by
  obtain ⟨later, uncommented⟩ := exists_uncommented rest
  have apart : ¬['/', '/'] <:+: code ++ [','] := not_pair_infix_append outside (by simp) (by decide)
  have whole := uncommented.append_left apart (by simp)
  rw [List.append_cons, content_of_uncommented whole, content_of_uncommented uncommented,
    trimmedFields_trim (by decide), trimmedFields_trim (by decide), ← List.append_cons,
      trimmedFields_append_cons]

theorem content_map_toLower (line : List Char) :
    content (line.map Char.toLower) = (content line).map Char.toLower := by
  rw [content, content, cutAtPair_map_toLower]
  cases cutAtPair '/' '/' line with
  | none => exact trim_map_toLower line
  | some p => exact trim_map_toLower p.1

end

/-! ## Edits of a line -/

/-- How the layout of the line with the number `n` may be changed. A comma is outside comments if no
two slashes come before it. -/
inductive LineEdit (n : ℕ) : List Char → List Char → Prop
  | start {line blanks : List Char} (blank : ∀ c ∈ blanks, isBlank c) :
      LineEdit n line (blanks ++ line)
  | finish {line blanks : List Char} (blank : ∀ c ∈ blanks, isBlank c) :
      LineEdit n line (line ++ blanks)
  | remark {line : List Char} (text : List Char) :
      LineEdit n line (line ++ ' ' :: '/' :: '/' :: text)
  | comma {code left right rest : List Char} (early : n ≤ 2) (outside : ¬['/', '/'] <:+: code)
      (blank : ∀ c ∈ left, isBlank c) (blank' : ∀ c ∈ right, isBlank c) :
      LineEdit n (code ++ ',' :: rest) (code ++ left ++ ',' :: (right ++ rest))
  | letters {line line' : List Char} (late : 4 ≤ n)
      (same : line.map Char.toLower = line'.map Char.toLower) :
      LineEdit n line line'

theorem LineEdit.lookedAt_eq {n : ℕ} {line line' : List Char} (edit : LineEdit (n + 1) line line') :
    lookedAt n (content line) = lookedAt n (content line') := by
  cases edit with
  | start blank => rw [content_append_left blank]
  | finish blank => rw [content_append_blanks blank]
  | remark text => rw [content_append_remark]
  | @comma code left right rest early outside blank blank' =>
    have header : ∀ text, lookedAt n text = trimmedFields ',' text := by
      obtain rfl | rfl : n = 0 ∨ n = 1 := by omega
      · exact fun _ => rfl
      · exact fun _ => rfl
    have outside' : ¬['/', '/'] <:+: code ++ left :=
      not_pair_infix_append outside (fun _ => head_ne_slash_of_blank blank)
        (not_pair_infix_of_blank blank)
    rw [header, header, trimmedFields_content outside, trimmedFields_content outside',
      content_append_left blank', trimmedFields_append_right (by decide) blank]
  | letters late same =>
    obtain ⟨m, rfl⟩ : ∃ m, n = m + 3 := ⟨n - 3, by omega⟩
    -- small letters are cut, trimmed and put into lower case like the letters that they come from
    have lower := content_map_toLower line
    rw [same, content_map_toLower] at lower
    rw [lookedAt, lookedAt, ← lowercase_map_toLower, ← lower, lowercase_map_toLower]

/-! ## Edits of a text -/

/-- The text with a carriage return before every newline. -/
def withReturns (text : List Char) : List Char :=
  text.flatMap fun c => if c = '\n' then ['\r', '\n'] else [c]

theorem lines_append_newline (cs ds : List Char) :
    lines (cs ++ '\n' :: ds) = lines cs ++ lines ds := by
  rw [lines, List.splitOn_append_cons_self, List.map_append, lines, lines]

theorem lines_of_not_mem {cs : List Char} (single : '\n' ∉ cs) : lines cs = [content cs] := by
  rw [lines, List.splitOn_eq_singleton single, List.map_singleton]

/-- The text goes on with a line of which `before` has been read. -/
theorem lines_append_withReturns {before : List Char} (single : '\n' ∉ before) (text : List Char) :
    lines (before ++ withReturns text) = lines (before ++ text) := by
  induction text generalizing before with
  | nil => rfl
  | cons c text ih =>
    by_cases newline : c = '\n'
    · have here : withReturns (c :: text) = '\r' :: '\n' :: withReturns text := by
        simp [withReturns, newline]
      have single' : '\n' ∉ before ++ ['\r'] := List.not_mem_append single (by decide)
      rw [here, newline, List.append_cons, lines_append_newline, lines_append_newline,
        lines_of_not_mem single, lines_of_not_mem single',
          content_append_blanks (forall_mem_of_all (by decide))]
      exact congrArg _ (ih List.not_mem_nil)
    · have here : withReturns (c :: text) = c :: withReturns text := by simp [withReturns, newline]
      have single' : '\n' ∉ before ++ [c] :=
        List.not_mem_append single (by simpa using Ne.symm newline)
      rw [here, List.append_cons, ih single', ← List.append_cons]

/-- How the layout of a text may be changed. A line becomes a line again, so what is added to it
holds no newline. -/
inductive Edit : List Char → List Char → Prop
  | returns (text : List Char) : Edit text (withReturns text)
  | line {above below : List (List Char)} {line line' text text' : List Char}
      (before : Separated '\n' (above ++ line :: below) text)
      (after : Separated '\n' (above ++ line' :: below) text')
      (edit : LineEdit (above.length + 1) line line') : Edit text text'

theorem Edit.ofLines_eq {text text' : List Char} (edit : Edit text text') (tolerance : Float) :
    ofLines tolerance (lines text) = ofLines tolerance (lines text') := by
  cases edit with
  | returns =>
    rw [← List.nil_append (withReturns text), lines_append_withReturns List.not_mem_nil,
      List.nil_append]
  | @line above below line line' _ _ before after edit =>
    refine ofLines_congr ?_
    rw [lines, lines, splitOn_eq_iff.2 before, splitOn_eq_iff.2 after]
    simp only [List.map_append, List.map_cons, List.mapIdx_append, List.mapIdx_cons,
      List.length_map, Nat.zero_add, edit.lookedAt_eq]

end RuleFile

/-- Texts that differ in their layout only, by any number of changes, are read as the same rule set
or refused with the same error. -/
theorem RuleSet.layout_does_not_matter (tolerance : Float) {text text' : String}
    (edits : Relation.EqvGen RuleFile.Edit text.toList text'.toList) :
    parse tolerance text' = parse tolerance text := by
  rw [parse, parse]
  generalize text.toList = cs at edits ⊢
  generalize text'.toList = cs' at edits ⊢
  induction edits with
  | rel _ _ edit => exact (edit.ofLines_eq tolerance).symm
  | refl => rfl
  | symm _ _ _ ih => exact ih.symm
  | trans _ _ _ _ _ first second => exact second.trans first

/-- The text of the error is in lower case, without the comment and the blanks, whatever the layout
is. -/
theorem RuleSet.layout_does_not_matter_typo :
    let text := "0,1\n1,0\n1\n0 -> 1Z"
    let text' := "\t0,1\r\n1 , 0\r\n1\r\n0 -> 1z // Typo"
    parse 0.1 text' = parse 0.1 text ∧
    parse 0.1 text = .error (.malformedNumber 4 .targetState "1z") := by
  intro text text'
  have tab : ∀ c ∈ ['\t'], isBlank c := forall_mem_of_all (by decide)
  have space : ∀ c ∈ [' '], isBlank c := forall_mem_of_all (by decide)
  have start : RuleFile.Edit text.toList "\t0,1\n1,0\n1\n0 -> 1Z".toList :=
    .line (splitOn_eq_iff.1
        (by decide : _ = [] ++ "0,1".toList :: ["1,0".toList, ['1'], "0 -> 1Z".toList]))
      (splitOn_eq_iff.1 (by decide)) (.start tab)
  have comma : RuleFile.Edit "\t0,1\n1,0\n1\n0 -> 1Z".toList "\t0,1\n1 , 0\n1\n0 -> 1Z".toList :=
    .line (splitOn_eq_iff.1
        (by decide : _ = ["\t0,1".toList] ++ (['1'] ++ ',' :: ['0']) :: [['1'], "0 -> 1Z".toList]))
      (splitOn_eq_iff.1 (by decide)) (.comma (by decide) (by decide) space space)
  have remark : RuleFile.Edit "\t0,1\n1 , 0\n1\n0 -> 1Z".toList
      "\t0,1\n1 , 0\n1\n0 -> 1Z // Typo".toList :=
    .line (splitOn_eq_iff.1
        (by decide : _ = ["\t0,1".toList, "1 , 0".toList, ['1']] ++ "0 -> 1Z".toList :: []))
      (splitOn_eq_iff.1 (by decide)) (.remark " Typo".toList)
  have letters : RuleFile.Edit "\t0,1\n1 , 0\n1\n0 -> 1Z // Typo".toList
      "\t0,1\n1 , 0\n1\n0 -> 1z // Typo".toList :=
    .line (splitOn_eq_iff.1
      (by decide : _ = ["\t0,1".toList, "1 , 0".toList, ['1']] ++ "0 -> 1Z // Typo".toList :: []))
      (splitOn_eq_iff.1 (by decide : _ = _ ++ "0 -> 1z // Typo".toList :: _))
        (.letters (by decide) (by decide))
  have returned : text'.toList =
    RuleFile.withReturns "\t0,1\n1 , 0\n1\n0 -> 1z // Typo".toList := by decide
  have edits : Relation.EqvGen RuleFile.Edit text.toList text'.toList := by
    rw [returned]
    exact .trans _ _ _ (.rel _ _ start)
      (.trans _ _ _ (.rel _ _ comma) (.trans _ _ _ (.rel _ _ remark)
      (.trans _ _ _ (.rel _ _ letters) (.rel _ _ (.returns _)))))
  exact ⟨RuleSet.layout_does_not_matter 0.1 edits, by decide +kernel⟩

end CellularAutomaton
