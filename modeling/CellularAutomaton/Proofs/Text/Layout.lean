import CellularAutomaton.Proofs.Text.Fields

/-!
# Blanks, comments and capitals

Blanks at the ends of a text do not change its trimmed fields, and what is put before a comment or
after it leaves the comment where it is. Capital letters of ASCII are told from small ones only by
lower-casing, which makes them equal.
-/

namespace CellularAutomaton.Text

/-! ## Trimmed fields -/

theorem trim_trim (cs : List Char) : trim (trim cs) = trim cs := trim_of_bare (trimmed_trim cs).bare

theorem trim_append_left {before cs : List Char} (left : ∀ c ∈ before, isBlank c) :
    trim (before ++ cs) = trim cs := by
  obtain ⟨bare, before', after, left', right, same⟩ := trimmed_trim cs
  refine trim_eq_iff.2 ⟨bare, before ++ before', after,
    List.forall_mem_append.2 ⟨left, left'⟩, right, ?_⟩
  rw [List.append_assoc before, List.append_assoc before, ← same]

def trimmedFields (sep : Char) (cs : List Char) : List (List Char) := (cs.splitOn sep).map trim

section

variable {sep : Char} {before after cs ds : List Char}

theorem trimmedFields_append_cons :
    trimmedFields sep (cs ++ sep :: ds) = trimmedFields sep cs ++ trimmedFields sep ds := by
  rw [trimmedFields, List.splitOn_append_cons_self, List.map_append, trimmedFields, trimmedFields]

theorem trimmedFields_of_not_mem (whole : sep ∉ cs) : trimmedFields sep cs = [trim cs] := by
  rw [trimmedFields, List.splitOn_eq_singleton whole, List.map_singleton]

theorem trimmedFields_append_left (solid : isBlank sep = false) (left : ∀ c ∈ before, isBlank c) :
    trimmedFields sep (before ++ cs) = trimmedFields sep cs := by
  have apart : sep ∉ before := fun inside => by simp [left sep inside] at solid
  by_cases several : sep ∈ cs
  · obtain ⟨first, rest, rfl, whole⟩ := List.eq_append_cons_of_mem several
    rw [← List.append_assoc, trimmedFields_append_cons, trimmedFields_append_cons,
      trimmedFields_of_not_mem whole, trimmedFields_of_not_mem (List.not_mem_append apart whole),
        trim_append_left left]
  · rw [trimmedFields_of_not_mem several,
      trimmedFields_of_not_mem (List.not_mem_append apart several), trim_append_left left]

theorem trimmedFields_append_right (solid : isBlank sep = false) (right : ∀ c ∈ after, isBlank c) :
    trimmedFields sep (cs ++ after) = trimmedFields sep cs := by
  have apart : sep ∉ after := fun inside => by simp [right sep inside] at solid
  by_cases several : sep ∈ cs
  · obtain ⟨last, rest, same, whole⟩ := List.eq_append_cons_of_mem (List.mem_reverse.2 several)
    obtain rfl : cs = rest.reverse ++ sep :: last.reverse := by
      simpa using congrArg List.reverse same
    have whole : sep ∉ last.reverse := by simpa using whole
    have whole' : sep ∉ last.reverse ++ after := List.not_mem_append whole apart
    rw [List.append_assoc, List.cons_append, trimmedFields_append_cons, trimmedFields_append_cons,
      trimmedFields_of_not_mem whole, trimmedFields_of_not_mem whole', trim_append right]
  · rw [trimmedFields_of_not_mem several,
      trimmedFields_of_not_mem (List.not_mem_append several apart), trim_append right]

theorem trimmedFields_trim (solid : isBlank sep = false) :
    trimmedFields sep (trim cs) = trimmedFields sep cs := by
  obtain ⟨-, before, after, left, right, same⟩ := trimmed_trim cs
  rw [same, trimmedFields_append_right solid right, trimmedFields_append_left solid left, ← same]

end

/-! ## Comments -/

theorem exists_uncommented (line : List Char) : ∃ code, Uncommented line code :=
  ⟨_, cutAtPair_getD_iff.1 rfl⟩

theorem not_pair_infix_iff {a b : Char} {cs : List Char} :
    ¬[a, b] <:+: cs ↔ cs.IsChain fun c d => ¬(c = a ∧ d = b) := by
  induction cs with
  | nil => simp
  | cons c cs ih =>
    cases cs with
    | nil => simp [List.infix_cons_iff]
    | cons d cs =>
      have starts : [a, b] <+: c :: d :: cs ↔ c = a ∧ d = b := by
        simp [List.cons_prefix_cons, eq_comm]
      rw [List.infix_cons_iff, starts, not_or, ih, List.isChain_cons_cons]

section

variable {before line rest code blanks : List Char}

theorem slash_not_mem_of_blank (blank : ∀ c ∈ blanks, isBlank c) : '/' ∉ blanks :=
  fun inside => absurd (blank '/' inside) (by decide)

theorem head_ne_slash_of_blank (blank : ∀ c ∈ blanks, isBlank c) : blanks.head? ≠ some '/' :=
  fun first => slash_not_mem_of_blank blank (List.mem_of_mem_head? first)

theorem not_pair_infix_of_blank (blank : ∀ c ∈ blanks, isBlank c) : ¬['/', '/'] <:+: blanks :=
  fun inside => slash_not_mem_of_blank blank (inside.subset (by simp))

theorem not_pair_infix_append (apart : ¬['/', '/'] <:+: before)
    (seam : before.getLast? = some '/' → line.head? ≠ some '/') (none : ¬['/', '/'] <:+: line) :
    ¬['/', '/'] <:+: before ++ line := by
  rw [not_pair_infix_iff] at apart none ⊢
  refine List.isChain_append.2 ⟨apart, none, ?_⟩
  rintro c last d first ⟨rfl, rfl⟩
  exact seam last first

theorem Uncommented.append_left (apart : ¬['/', '/'] <:+: before)
    (seam : before.getLast? = some '/' → line.head? ≠ some '/')
    (uncommented : Uncommented line code) :
    Uncommented (before ++ line) (before ++ code) := by
  cases uncommented with
  | whole none => exact .whole (not_pair_infix_append apart seam none)
  | @cut _ comment first =>
    rw [← List.append_assoc]
    refine .cut ?_
    rw [List.append_assoc]
    refine not_pair_infix_append apart (fun last => ?_) first
    have same : (code ++ ['/']).head? = (code ++ '/' :: '/' :: comment).head? := by
      cases code <;> rfl
    rw [same]
    exact seam last

/-- Blanks after a line, or a comment after a blank, do not change what the line says. -/
theorem Uncommented.append_right (uncommented : Uncommented line code)
    (added : Uncommented rest blanks) (starts : rest.head? ≠ some '/')
    (right : ∀ c ∈ blanks, isBlank c) :
    ∃ code', Uncommented (line ++ rest) code' ∧ trim code' = trim code := by
  cases uncommented with
  | whole none => exact ⟨_, added.append_left none fun _ => starts, trim_append right⟩
  | cut first =>
    refine ⟨code, ?_, rfl⟩
    rw [List.append_assoc]
    exact .cut first

end

/-! ## Capitals -/

def capitals : List Char := (List.range' 0x41 26).map Char.ofNat

/-- What agrees on the capital letters and their small forms agrees on all characters and their
small forms. -/
theorem agrees_toLower {α : Type} [DecidableEq α] {f : Char → α}
    (agrees : capitals.all fun c => f c.toLower = f c) (c : Char) : f c.toLower = f c := by
  by_cases upper : 0x41 ≤ c.toNat ∧ c.toNat ≤ 0x5A
  · have inside : c ∈ capitals :=
      List.mem_map.2 ⟨c.toNat, List.mem_range'_1.2 (by omega), Char.ofNat_toNat c⟩
    exact forall_mem_of_all agrees c inside
  · have same : c.toLower = c := dif_neg upper
    rw [same]

theorem isBlank_toLower (c : Char) : isBlank c.toLower = isBlank c := agrees_toLower (by decide) c

theorem isCased_toLower (c : Char) : isCased c.toLower = isCased c :=
  agrees_toLower (by decide +kernel) c

theorem isCaseIgnorable_toLower (c : Char) : isCaseIgnorable c.toLower = isCaseIgnorable c :=
  agrees_toLower (by decide +kernel) c

theorem lowercaseChar_toLower (c : Char) : lowercaseChar c.toLower = lowercaseChar c :=
  agrees_toLower (by decide +kernel) c

theorem toLower_eq_iff {d : Char}
    (agrees : capitals.all fun c => decide (c.toLower = d) = decide (c = d)) (c : Char) :
    c.toLower = d ↔ c = d :=
  decide_eq_decide.1 (agrees_toLower (f := fun c => decide (c = d)) agrees c)

theorem casedFollows_map_toLower (cs : List Char) :
    casedFollows (cs.map Char.toLower) = casedFollows cs := by
  have ignorable : isCaseIgnorable ∘ Char.toLower = isCaseIgnorable :=
    funext isCaseIgnorable_toLower
  rw [casedFollows, casedFollows, List.dropWhile_map, ignorable]
  cases cs.dropWhile isCaseIgnorable with
  | nil => rfl
  | cons c cs => exact isCased_toLower c

theorem lowercaseAfter_map_toLower (before cs : List Char) :
    lowercaseAfter (before.map Char.toLower) (cs.map Char.toLower) = lowercaseAfter before cs := by
  induction cs generalizing before with
  | nil => rfl
  | cons c cs ih =>
    rw [List.map_cons, lowercaseAfter, lowercaseAfter, ← List.map_cons, ih,
      casedFollows_map_toLower, casedFollows_map_toLower, lowercaseChar_toLower]
    simp only [toLower_eq_iff (d := '\u03A3') (by decide)]

theorem lowercase_map_toLower (cs : List Char) : lowercase (cs.map Char.toLower) = lowercase cs :=
  lowercaseAfter_map_toLower [] cs

theorem trim_map_toLower (cs : List Char) :
    trim (cs.map Char.toLower) = (trim cs).map Char.toLower := by
  have blank : isBlank ∘ Char.toLower = isBlank := funext isBlank_toLower
  simp only [trim, trimStart, trimEnd, ← List.map_reverse, List.dropWhile_map, blank]

theorem cutAtPair_map_toLower (cs : List Char) : cutAtPair '/' '/' (cs.map Char.toLower) =
    (cutAtPair '/' '/' cs).map fun p => (p.1.map Char.toLower, p.2.map Char.toLower) := by
  induction cs with
  | nil => rfl
  | cons c cs ih =>
    cases cs with
    | nil => rfl
    | cons d cs =>
      rw [List.map_cons] at ih
      simp only [List.map_cons, cutAtPair, toLower_eq_iff (d := '/') (by decide), ih]
      split_ifs with here
      · rfl
      · rw [Option.map_map, Option.map_map]
        rfl

end CellularAutomaton.Text
