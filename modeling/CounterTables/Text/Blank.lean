/-!
# Blank characters, trimming and splitting

Two classes of blanks are in use. Formulas are separated by the five ASCII
blanks; names, codes and compiled formulas are trimmed and split at every
character with the Unicode property `White_Space`.

## Main definitions

* `isAsciiBlank`, `isBlank` — the two classes, the first inside the second.
* `trim` — a text without the blanks at its two ends.
* `pieces` — a text cut at every separator, empty pieces kept.
* `words` — the maximal runs of characters that are not blank.
* `splitLines` — the lines of a text, however they end.
-/

namespace CounterTables.Text

/-! ## Classes -/

/-- The blanks allowed between the tokens of a formula: space, tab, line feed,
carriage return and form feed. -/
def isAsciiBlank (c : Char) : Bool :=
  c == ' ' || c == '\t' || c == '\n' || c == '\r' || c == '\x0c'

/-- The Unicode property `White_Space`. -/
def isBlank (c : Char) : Bool :=
  (9 ≤ c.toNat && c.toNat ≤ 13) || c.toNat == 0x20 || c.toNat == 0x85 || c.toNat == 0xA0
    || c.toNat == 0x1680 || (0x2000 ≤ c.toNat && c.toNat ≤ 0x200A)
    || c.toNat == 0x2028 || c.toNat == 0x2029 || c.toNat == 0x202F
    || c.toNat == 0x205F || c.toNat == 0x3000

theorem isBlank_of_isAsciiBlank {c : Char} (h : isAsciiBlank c = true) :
    isBlank c = true := by
  simp only [isAsciiBlank, Bool.or_eq_true, beq_iff_eq] at h
  rcases h with (((h | h) | h) | h) | h <;> subst h <;> rfl

/-! ## Trimming -/

/-- The text without the blanks at its end. -/
def trimEnd (cs : List Char) : List Char :=
  (cs.reverse.dropWhile isBlank).reverse

/-- The text without the blanks at either end. -/
def trim (cs : List Char) : List Char :=
  trimEnd (cs.dropWhile isBlank)

/-! ## Cutting -/

/-- Puts `c` before the first of the pieces that follow it, or starts a new
piece at a separator. -/
def cutAt (sep : Char → Bool) (c : Char) : List (List Char) → List (List Char)
  | [] => if sep c then [[], []] else [[c]]
  | piece :: rest => if sep c then [] :: piece :: rest else (c :: piece) :: rest

/-- The text cut at every separator. There is always one piece more than
separators. -/
def pieces (sep : Char → Bool) (cs : List Char) : List (List Char) :=
  cs.foldr (cutAt sep) [[]]

/-- The maximal runs of characters that are not blank. -/
def words (cs : List Char) : List (List Char) :=
  (pieces isBlank cs).filter (fun piece => !piece.isEmpty)

theorem length_pieces (sep : Char → Bool) (cs : List Char) :
    (pieces sep cs).length = cs.countP sep + 1 := by
  induction cs with
  | nil => rfl
  | cons c rest ih =>
      show (cutAt sep c (pieces sep rest)).length = _
      match h : pieces sep rest with
      | [] => rw [h] at ih; simp at ih
      | piece :: more =>
          rw [h] at ih
          by_cases hc : sep c <;> simp_all [cutAt]

/-- Cutting is what the library calls splitting. -/
theorem pieces_eq_splitOnP (sep : Char → Bool) (cs : List Char) :
    pieces sep cs = cs.splitOnP sep := by
  induction cs with
  | nil => rfl
  | cons c rest ih =>
      rw [List.splitOnP_cons_eq_if_modifyHead, ← ih]
      show cutAt sep c (pieces sep rest) = _
      match h : pieces sep rest with
      | [] => exact absurd (ih.symm.trans h) (List.splitOnP_ne_nil sep rest)
      | piece :: more => rfl

/-- A text without the separator is one piece. -/
theorem pieces_of_not_mem {sep : Char} {cs : List Char} (h : sep ∉ cs) :
    pieces (· == sep) cs = [cs] := by
  rw [pieces_eq_splitOnP]
  refine List.splitOnP_eq_singleton fun c hc => ?_
  rw [beq_eq_false_iff_ne]
  rintro rfl
  exact h hc

/-- A text behind a separator has its own pieces. -/
theorem pieces_append_cons {sep : Char} (cs rest : List Char) :
    pieces (· == sep) (cs ++ sep :: rest) =
      pieces (· == sep) cs ++ pieces (· == sep) rest := by
  simp only [pieces_eq_splitOnP]
  exact List.splitOnP_append_cons cs rest (beq_self_eq_true sep)

/-! ## Lines -/

/-- A line without the carriage return that belongs to its end. -/
def dropReturn (line : List Char) : List Char :=
  match line.reverse with
  | '\r' :: rest => rest.reverse
  | _ => line

/-- The lines of a text. A line ends at a line feed or at a carriage return with
a line feed; a carriage return alone belongs to its line. A final line end
starts no further line, and what follows the last line feed is a line with all
its characters. -/
def splitLines (cs : List Char) : List (List Char) :=
  let parts := pieces (· == '\n') cs
  match parts.reverse with
  | [] => []
  | last :: before =>
      before.reverse.map dropReturn ++ (if last.isEmpty then [] else [last])

end CounterTables.Text
