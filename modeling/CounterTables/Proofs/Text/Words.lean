import Mathlib
import CounterTables.Text.Blank

/-!
# The words of a text

Words have blanks between them, and any number of blanks may stand before the
first and behind the last. `IsWords` says so clause by clause, without cutting
anything: a text is nothing, or starts with a blank, or starts with a word that
reaches up to a blank or to the end. Every text has its words in exactly one
way, and `words` finds them.

## Main results

* `words_cons_of_isBlank`, `words_append` — what the start of a text adds to the
  words of the rest.
* `isWords_iff` — the words of a text are those that are found.
* `isWords_intercalate` — words with single spaces between them.
-/

namespace CounterTables.Text

/-- The text consists of these words and of blanks that keep them apart. -/
inductive IsWords : List Char → List (List Char) → Prop
  | nil : IsWords [] []
  | blank {c : Char} {rest : List Char} {parts : List (List Char)} :
      isBlank c = true → IsWords rest parts → IsWords (c :: rest) parts
  /-- A word goes on up to a blank or to the end. -/
  | word {word rest : List Char} {parts : List (List Char)} :
      word ≠ [] → (∀ c ∈ word, isBlank c = false) →
      (∀ c ∈ rest.head?, isBlank c = true) →
      IsWords rest parts → IsWords (word ++ rest) (word :: parts)

/-! ## Finding the words -/

theorem words_cons_of_isBlank {c : Char} (hc : isBlank c = true) (rest : List Char) :
    words (c :: rest) = words rest := by
  have hpieces : pieces isBlank (c :: rest) = [] :: pieces isBlank rest := by
    rw [pieces_eq_splitOnP, pieces_eq_splitOnP]
    exact List.splitOnP_append_cons_of_forall_mem (List.forall_mem_nil _) c hc rest
  rw [words, hpieces]
  rfl

theorem words_append {word rest : List Char} (hne : word ≠ [])
    (hword : ∀ c ∈ word, isBlank c = false)
    (hrest : ∀ c ∈ rest.head?, isBlank c = true) :
    words (word ++ rest) = word :: words rest := by
  cases rest with
  | nil =>
      have hpieces : pieces isBlank word = [word] := by
        rw [pieces_eq_splitOnP]
        exact List.splitOnP_eq_singleton hword
      rw [List.append_nil, words, hpieces]
      simp [hne, words, pieces]
  | cons c rest =>
      have hc : isBlank c = true := hrest c rfl
      have hpieces : pieces isBlank (word ++ c :: rest) =
          word :: pieces isBlank rest := by
        rw [pieces_eq_splitOnP, pieces_eq_splitOnP]
        exact List.splitOnP_append_cons_of_forall_mem hword c hc rest
      rw [words_cons_of_isBlank hc, words, hpieces]
      simp [hne, words]

/-! ## The words and what is found -/

theorem IsWords.words_eq {cs : List Char} {parts : List (List Char)}
    (h : IsWords cs parts) : words cs = parts := by
  induction h with
  | nil => rfl
  | blank hc _ ih => rw [words_cons_of_isBlank hc, ih]
  | word hne hword hrest _ ih => rw [words_append hne hword hrest, ih]

/-- A text that does not start with a blank starts with a word. -/
theorem exists_word {c : Char} (hc : isBlank c = false) (rest : List Char) :
    ∃ word more, c :: rest = (c :: word) ++ more ∧
      (∀ d ∈ c :: word, isBlank d = false) ∧ ∀ d ∈ more.head?, isBlank d = true := by
  induction rest generalizing c with
  | nil => exact ⟨[], [], rfl, by simpa using hc, nofun⟩
  | cons d rest ih =>
      by_cases hd : isBlank d = true
      · exact ⟨[], d :: rest, rfl, by simpa using hc, by simpa using hd⟩
      · obtain ⟨word, more, hsplit, hword, hmore⟩ := ih (Bool.eq_false_iff.2 hd)
        refine ⟨d :: word, more, ?_, List.forall_mem_cons.2 ⟨hc, hword⟩, hmore⟩
        rw [hsplit]
        rfl

theorem isWords_words (cs : List Char) : IsWords cs (words cs) := by
  -- a blank or a word at the start leaves a shorter text behind it
  induction hlength : cs.length using Nat.strong_induction_on generalizing cs with
  | _ length ih =>
      cases cs with
      | nil => exact .nil
      | cons c rest =>
          by_cases hc : isBlank c = true
          · rw [words_cons_of_isBlank hc]
            refine .blank hc (ih rest.length ?_ rest rfl)
            rw [← hlength, List.length_cons]
            omega
          · obtain ⟨word, more, hsplit, hword, hmore⟩ :=
              exists_word (Bool.eq_false_iff.2 hc) rest
            have hne : c :: word ≠ [] := List.cons_ne_nil c word
            rw [hsplit, words_append hne hword hmore]
            refine .word hne hword hmore (ih more.length ?_ more rfl)
            rw [← hlength, hsplit, List.length_append, List.length_cons]
            omega

/-- A text has the words that are found in it, and no others. -/
theorem isWords_iff {cs : List Char} {parts : List (List Char)} :
    IsWords cs parts ↔ words cs = parts := by
  constructor
  · exact IsWords.words_eq
  · rintro rfl
    exact isWords_words cs

/-- Tabs and other blanks separate like spaces. -/
example : IsWords " a+\t\n b ".toList [['a', '+'], ['b']] :=
  isWords_iff.2 (by decide)

/-! ## Words that are written -/

/-- Words with single spaces between them are the words of the text. -/
theorem isWords_intercalate {parts : List (List Char)}
    (h : ∀ part ∈ parts, part ≠ [] ∧ ∀ c ∈ part, isBlank c = false) :
    IsWords ([' '].intercalate parts) parts := by
  induction parts with
  | nil => exact .nil
  | cons part rest ih =>
      obtain ⟨⟨hne, hpart⟩, hrest⟩ := List.forall_mem_cons.1 h
      have hspace : isBlank ' ' = true := by decide
      cases rest with
      | nil =>
          have hword : IsWords (part ++ []) [part] := .word hne hpart nofun .nil
          rw [List.append_nil] at hword
          rwa [List.intercalate_singleton]
      | cons next more =>
          rw [List.intercalate_cons_cons, List.append_assoc, List.singleton_append]
          exact .word hne hpart (by simpa using hspace) (.blank hspace (ih hrest))

end CounterTables.Text
