import Mathlib
import CounterTables.Text.Blank

/-!
# Trimmed texts

A text is trimmed if it does not start or end with a blank. Trimming always
gives such a text, and changes no other. So whatever blanks are put around a
text, trimming takes them away again, and those that the text had itself; a
character that is no blank keeps everything before it.

## Main results

* `trimEnd_append_cons` — what stands before a character that is no blank stays.
* `trim_surrounded` — blanks around a text make no difference.
* `trim_eq_self_iff`, `isTrimmed_trim` — the trimmed texts are those that
  trimming gives.
-/

namespace CounterTables.Text

/-- The text has no blank at either end. -/
structure IsTrimmed (cs : List Char) : Prop where
  starts : ∀ c ∈ cs.head?, isBlank c = false
  ends : ∀ c ∈ cs.getLast?, isBlank c = false

theorem isTrimmed_of_not_blank {cs : List Char} (h : ∀ c ∈ cs, isBlank c = false) :
    IsTrimmed cs where
  starts c hc := h c (List.mem_of_head? hc)
  ends c hc := h c (List.mem_of_getLast? hc)

/-! ## Blanks at the start -/

theorem dropWhile_of_starts {cs : List Char} (h : ∀ c ∈ cs.head?, isBlank c = false) :
    cs.dropWhile isBlank = cs := by
  cases cs with
  | nil => rfl
  | cons c rest => exact List.dropWhile_cons_of_neg (by simp [h c rfl])

theorem starts_dropWhile (cs : List Char) :
    ∀ c ∈ (cs.dropWhile isBlank).head?, isBlank c = false := by
  intro c hc
  have hhead := List.head?_dropWhile_not isBlank cs
  rw [Option.mem_def.1 hc] at hhead
  exact hhead

/-! ## Blanks at the end -/

/-- Trimming at the end is what the library calls dropping from the right. -/
theorem trimEnd_eq_rdropWhile (cs : List Char) :
    trimEnd cs = cs.rdropWhile isBlank := rfl

theorem trimEnd_of_ends {cs : List Char} (h : ∀ c ∈ cs.getLast?, isBlank c = false) :
    trimEnd cs = cs := by
  rw [trimEnd_eq_rdropWhile, List.rdropWhile_eq_self_iff]
  intro hne
  simp [h (cs.getLast hne) (List.getLast?_eq_some_getLast hne)]

theorem ends_trimEnd (cs : List Char) :
    ∀ c ∈ (trimEnd cs).getLast?, isBlank c = false := by
  rw [trimEnd, List.getLast?_reverse]
  exact starts_dropWhile cs.reverse

theorem trimEnd_append_blanks {cs back : List Char} (h : ∀ c ∈ back, isBlank c = true) :
    trimEnd (cs ++ back) = trimEnd cs := by
  have hback : ∀ c ∈ back.reverse, isBlank c = true :=
    fun c hc => h c (List.mem_reverse.1 hc)
  rw [trimEnd, List.reverse_append, List.dropWhile_append_of_pos hback, trimEnd]

theorem trimEnd_append_cons {c : Char} (hc : isBlank c = false) (cs rest : List Char) :
    trimEnd (cs ++ c :: rest) = cs ++ c :: trimEnd rest := by
  have hstop : (c :: cs.reverse).dropWhile isBlank = c :: cs.reverse :=
    List.dropWhile_cons_of_neg (by simp [hc])
  rw [trimEnd, trimEnd, List.reverse_append, List.reverse_cons, List.append_assoc,
    List.singleton_append, List.dropWhile_append]
  split
  case isTrue hblank =>
      rw [hstop, List.isEmpty_iff.1 hblank]
      simp
  case isFalse =>
      simp

/-! ## Blanks at both ends -/

theorem IsTrimmed.trim_eq {cs : List Char} (h : IsTrimmed cs) : trim cs = cs := by
  rw [trim, dropWhile_of_starts h.starts, trimEnd_of_ends h.ends]

theorem trim_of_not_blank {cs : List Char} (h : ∀ c ∈ cs, isBlank c = false) :
    trim cs = cs :=
  (isTrimmed_of_not_blank h).trim_eq

/-- Blanks around a text make no difference to what trimming leaves. -/
theorem trim_surrounded {front back : List Char}
    (hfront : ∀ c ∈ front, isBlank c = true) (hback : ∀ c ∈ back, isBlank c = true)
    (cs : List Char) :
    trim (front ++ cs ++ back) = trim cs := by
  rw [trim, List.append_assoc, List.dropWhile_append_of_pos hfront,
    List.dropWhile_append, trim]
  split
  case isTrue hblank =>
      -- Nothing is left of the text, and then nothing of the blanks behind it.
      have hempty : cs.dropWhile isBlank = [] := List.isEmpty_iff.1 hblank
      rw [hempty, List.dropWhile_eq_nil_iff.2 hback]
  case isFalse =>
      exact trimEnd_append_blanks hback

/-- Trimming at the end leaves a beginning. -/
theorem trim_prefix_dropWhile (cs : List Char) : trim cs <+: cs.dropWhile isBlank :=
  List.rdropWhile_prefix isBlank _

theorem mem_of_mem_trim {c : Char} {cs : List Char} (h : c ∈ trim cs) : c ∈ cs :=
  (List.dropWhile_suffix isBlank).mem ((trim_prefix_dropWhile cs).mem h)

theorem isTrimmed_trim (cs : List Char) : IsTrimmed (trim cs) where
  starts c hc := by
    -- What is left starts with the same character, unless nothing is.
    obtain ⟨back, hback⟩ := trim_prefix_dropWhile cs
    refine starts_dropWhile cs c ?_
    rw [← hback]
    exact List.mem_head?_append_of_mem_head? hc
  ends := ends_trimEnd (cs.dropWhile isBlank)

theorem trim_eq_self_iff {cs : List Char} : trim cs = cs ↔ IsTrimmed cs :=
  ⟨fun h => h ▸ isTrimmed_trim cs, IsTrimmed.trim_eq⟩

end CounterTables.Text
