import RadioLink.Proofs.Text.Trimming

/-!
The words of a text. A text is words with blanks around and between them in one way only, and
cutting it into words finds that way.
-/

set_option autoImplicit false
set_option relaxedAutoImplicit false

namespace RadioLink.Text

variable {text gap word rest : List Char} {more : List (List Char)}

/-- A word is not empty, and no blank is in it. -/
structure IsWord (word : List Char) : Prop where
  nonempty : word ≠ []
  solid : ∀ c ∈ word, isBlank c = false

/-- A text is some words with blanks around them; a blank stands between each word and the next. -/
inductive Spaced : List Char → List (List Char) → Prop
  | blank {gap : List Char} (blank : ∀ c ∈ gap, isBlank c = true) : Spaced gap []
  | word {gap word rest : List Char} {more : List (List Char)}
      (blank : ∀ c ∈ gap, isBlank c = true) (isWord : IsWord word)
      (stops : ∀ c ∈ rest.head?, isBlank c = true) (behind : Spaced rest more) :
      Spaced (gap ++ word ++ rest) (word :: more)

/-! ### Cutting -/

theorem words_blank_cons {c : Char} (blank : isBlank c = true) (text : List Char) :
    words (c :: text) = words text := by
  simp [words, splitWords, blank]

private theorem words_gap_append (blank : ∀ c ∈ gap, isBlank c = true) (text : List Char) :
    words (gap ++ text) = words text := by
  induction gap with
  | nil => rfl
  | cons c gap ih =>
    rw [List.cons_append, words_blank_cons (blank c (List.mem_cons_self ..)),
      ih fun d mem => blank d (List.mem_cons_of_mem _ mem)]

private theorem splitWords_of_stops (stops : ∀ c ∈ rest.head?, isBlank c = true) :
    splitWords rest = ([], words rest) := by
  cases rest with
  | nil => rfl
  | cons c rest =>
    have hblank : isBlank c = true := stops c rfl
    simp [words, splitWords, hblank]

private theorem splitWords_append (solid : ∀ c ∈ word, isBlank c = false)
    (stops : ∀ c ∈ rest.head?, isBlank c = true) :
    splitWords (word ++ rest) = (word, words rest) := by
  induction word with
  | nil => exact splitWords_of_stops stops
  | cons c word ih =>
    have hsolid : isBlank c = false := solid c (List.mem_cons_self ..)
    simp [splitWords, ih fun d mem => solid d (List.mem_cons_of_mem _ mem), hsolid]

theorem words_append (isWord : IsWord word) (stops : ∀ c ∈ rest.head?, isBlank c = true) :
    words (word ++ rest) = word :: words rest := by
  rw [words, splitWords_append isWord.solid stops]
  simp [isWord.nonempty]

theorem words_of_isWord (isWord : IsWord word) : words word = [word] := by
  have hwords : words (word ++ []) = [word] := words_append isWord nofun
  rwa [List.append_nil] at hwords

/-! ### The only way -/

private theorem Spaced.words_eq (spaced : Spaced text more) : words text = more := by
  induction spaced with
  | @blank gap blank =>
    have hwords := words_gap_append blank []
    rwa [List.append_nil] at hwords
  | word blank isWord stops _ ih =>
    rw [List.append_assoc, words_gap_append blank, words_append isWord stops, ih]

private theorem Spaced.cons_blank {c : Char} (blank : isBlank c = true)
    (spaced : Spaced text more) : Spaced (c :: text) more := by
  cases spaced with
  | blank gap => exact .blank (List.forall_mem_cons.mpr ⟨blank, gap⟩)
  | word gap isWord stops behind =>
    rw [← List.cons_append, ← List.cons_append]
    exact .word (List.forall_mem_cons.mpr ⟨blank, gap⟩) isWord stops behind

private theorem Spaced.of_cut (cut : text = word ++ rest) (solid : ∀ c ∈ word, isBlank c = false)
    (stops : ∀ c ∈ rest.head?, isBlank c = true) (behind : Spaced rest more) :
    Spaced text (if word.isEmpty then more else word :: more) := by
  subst cut
  by_cases hword : word = []
  · subst hword
    exact behind
  · rw [if_neg (by simpa using hword)]
    have hspaced : Spaced ([] ++ word ++ rest) (word :: more) :=
      .word nofun ⟨hword, solid⟩ stops behind
    exact hspaced

private theorem splitWords_spec (text : List Char) :
    ∃ rest, text = (splitWords text).1 ++ rest ∧
      (∀ c ∈ (splitWords text).1, isBlank c = false) ∧
      (∀ c ∈ rest.head?, isBlank c = true) ∧ Spaced rest (splitWords text).2 := by
  induction text with
  | nil => exact ⟨[], rfl, nofun, nofun, .blank nofun⟩
  | cons c text ih =>
    obtain ⟨rest, htext, hsolid, hstops, hspaced⟩ := ih
    cases hc : isBlank c with
    | false =>
      have hsplit : splitWords (c :: text) = (c :: (splitWords text).1, (splitWords text).2) := by
        simp [splitWords, hc]
      rw [hsplit]
      refine ⟨rest, ?_, List.forall_mem_cons.mpr ⟨hc, hsolid⟩, hstops, hspaced⟩
      rw [List.cons_append, ← htext]
    | true =>
      have hsplit : splitWords (c :: text) = ([], words text) := by
        simp [words, splitWords, hc]
      rw [hsplit]
      refine ⟨c :: text, rfl, nofun, ?_, (Spaced.of_cut htext hsolid hstops hspaced).cons_blank hc⟩
      rintro _ ⟨⟩
      exact hc

private theorem spaced_words (text : List Char) : Spaced text (words text) := by
  obtain ⟨rest, htext, hsolid, hstops, hspaced⟩ := splitWords_spec text
  exact .of_cut htext hsolid hstops hspaced

/-- There is one way to cut a text into words. -/
theorem spaced_iff : Spaced text more ↔ more = words text := by
  constructor
  · exact fun spaced => spaced.words_eq.symm
  · rintro rfl
    exact spaced_words text

theorem Spaced.isWord_of_mem (spaced : Spaced text more) (mem : word ∈ more) : IsWord word := by
  induction spaced with
  | blank => cases mem
  | word _ isWord _ _ ih =>
    rcases List.mem_cons.mp mem with rfl | mem
    · exact isWord
    · exact ih mem

end RadioLink.Text
