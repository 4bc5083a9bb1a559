import CellularAutomaton.Proofs.Text

/-!
# How a text is made up

A text is said to consist of fields, or of what is wanted with blanks or a comment around it,
without saying how the pieces are found. Each of the functions that take a text apart finds exactly
these pieces.
-/

namespace CellularAutomaton.Text

/-! ## Fields -/

structure Separated (sep : Char) (fields : List (List Char)) (text : List Char) : Prop where
  some : fields ≠ []
  apart : ∀ field ∈ fields, sep ∉ field
  text_eq : text = [sep].intercalate fields

theorem not_mem_of_mem_splitOn {sep : Char} {text : List Char} :
    ∀ field ∈ text.splitOn sep, sep ∉ field := by
  induction text with
  | nil => simp
  | cons c text ih =>
    rw [List.splitOn_cons_eq_if_modifyHead]
    split_ifs with same
    · exact List.forall_mem_cons.2 ⟨List.not_mem_nil, ih⟩
    · obtain ⟨field, fields, cut⟩ := List.exists_cons_of_ne_nil (List.splitOn_ne_nil sep text)
      rw [cut] at ih ⊢
      obtain ⟨first, later⟩ := List.forall_mem_cons.1 ih
      refine List.forall_mem_cons.2 ⟨?_, later⟩
      rw [List.mem_cons, not_or]
      exact ⟨fun equal => same (by simp [equal]), first⟩

theorem mem_intercalate {a c : Char} {ls : List (List Char)} (inside : c ∈ [a].intercalate ls) :
    c = a ∨ ∃ l ∈ ls, c ∈ l := by
  induction ls with
  | nil => simp at inside
  | cons l ls ih =>
    cases ls with
    | nil => exact .inr ⟨l, List.mem_cons_self, by simpa using inside⟩
    | cons m ls =>
      simp only [List.intercalate_cons_cons, List.mem_append, List.mem_singleton] at inside
      rcases inside with (here | same) | later
      · exact .inr ⟨l, List.mem_cons_self, here⟩
      · exact .inl same
      · rcases ih later with same | ⟨k, among, here⟩
        · exact .inl same
        · exact .inr ⟨k, List.mem_cons_of_mem _ among, here⟩

theorem splitOn_eq_iff {sep : Char} {fields : List (List Char)} {text : List Char} :
    text.splitOn sep = fields ↔ Separated sep fields text := by
  constructor
  · rintro rfl
    exact ⟨List.splitOn_ne_nil sep text, not_mem_of_mem_splitOn,
      (List.intercalate_splitOn sep).symm⟩
  · rintro ⟨some, apart, rfl⟩
    exact List.splitOn_intercalate sep apart some

/-! ## Trimmed texts -/

/-- The first text is the second with blanks around it, all of them. -/
structure Trimmed (cs ds : List Char) : Prop where
  bare : Bare ds
  padded : ∃ before after, (∀ c ∈ before, isBlank c) ∧ (∀ c ∈ after, isBlank c) ∧
    cs = before ++ ds ++ after

theorem trimmed_trim (cs : List Char) : Trimmed cs (trim cs) := by
  have left : cs = cs.takeWhile isBlank ++ trimStart cs := List.takeWhile_append_dropWhile.symm
  obtain ⟨after, blank, right⟩ : ∃ after, (∀ c ∈ after, isBlank c) ∧
    trimStart cs = trim cs ++ after := by
    refine ⟨((trimStart cs).reverse.takeWhile isBlank).reverse, ?_, ?_⟩
    · intro c inside
      exact List.mem_takeWhile_imp (List.mem_reverse.1 inside)
    · rw [trim, trimEnd, ← List.reverse_append, List.takeWhile_append_dropWhile,
        List.reverse_reverse]
  refine ⟨⟨?_, ?_⟩, cs.takeWhile isBlank, after, fun c => List.mem_takeWhile_imp, blank, ?_⟩
  · intro c first
    -- what is left of the text at its end begins like the text did
    have start : c ∈ (trimStart cs).head? := by
      rw [right, List.head?_append, Option.mem_def.1 first]
      rfl
    exact head_dropWhile c start
  · intro c last
    rw [trim, trimEnd, List.getLast?_reverse] at last
    exact head_dropWhile c last
  · rw [List.append_assoc, ← right]
    exact left

theorem trim_eq_iff {cs ds : List Char} : trim cs = ds ↔ Trimmed cs ds := by
  constructor
  · rintro rfl
    exact trimmed_trim cs
  · rintro ⟨bare, before, after, left, right, rfl⟩
    exact trim_pad before after bare left right

theorem trim_append {cs after : List Char} (right : ∀ c ∈ after, isBlank c) :
    trim (cs ++ after) = trim cs := by
  obtain ⟨bare, before, after', left, right', same⟩ := trimmed_trim cs
  refine trim_eq_iff.2 ⟨bare, before, after' ++ after, left, ?_, ?_⟩
  · exact List.forall_mem_append.2 ⟨right', right⟩
  · rw [← List.append_assoc, ← same]

theorem exists_eq_trim_append {cs : List Char} (solid : ∀ c ∈ cs.head?, isBlank c = false) :
    ∃ blanks, (∀ c ∈ blanks, isBlank c) ∧ cs = trim cs ++ blanks := by
  obtain ⟨-, before, blanks, left, right, same⟩ := trimmed_trim cs
  cases before with
  | nil => exact ⟨blanks, right, same⟩
  | cons c before =>
    have first := solid c (by rw [same]; rfl)
    rw [left c List.mem_cons_self] at first
    cases first

/-! ## Comments -/

/-- The second text is the line up to its first pair of slashes. -/
inductive Uncommented : List Char → List Char → Prop
  | whole {line : List Char} (none : ¬['/', '/'] <:+: line) : Uncommented line line
  | cut {code comment : List Char} (first : ¬['/', '/'] <:+: code ++ ['/']) :
      Uncommented (code ++ '/' :: '/' :: comment) code

theorem cutAtPair_getD_iff {line code : List Char} :
    ((cutAtPair '/' '/' line).map Prod.fst).getD line = code ↔ Uncommented line code := by
  constructor
  · rintro rfl
    cases cut : cutAtPair '/' '/' line with
    | none => exact .whole (cutAtPair_eq_none_iff.1 cut)
    | some p =>
      obtain ⟨same, first⟩ := cutAtPair_eq_some_iff.1 cut
      rw [same]
      exact .cut first
  · intro uncommented
    cases uncommented with
    | whole none => rw [cutAtPair_eq_none_iff.2 none]; rfl
    | cut first => rw [cutAtPair_eq_some_iff.2 ⟨rfl, first⟩]; rfl

end CellularAutomaton.Text
