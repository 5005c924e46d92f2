import Mathlib
import CounterTables.Text.Blank

/-!
# The lines of a text

A line ends at a line feed, and a carriage return right before the line feed
belongs to the end of the line. `IsLines` says so clause by clause, without
cutting anything: a text is a line with its end and more text, or a last line
that has no end, or nothing. Every text has its lines in exactly one way, and
`splitLines` finds them.

## Main results

* `splitLines_append_cons` — the first line, and the lines of what follows it.
* `isLines_iff` — the lines of a text are those that are found.
* `IsLines.not_mem` — no line holds a line feed.
-/

namespace CounterTables.Text

/-- The text consists of these lines, with an end behind each of them but for
the last, which may do without. -/
inductive IsLines : List Char → List (List Char) → Prop
  /-- No text has no lines. -/
  | nil : IsLines [] []
  /-- What follows the last line feed is a line as it stands, unless nothing
  does. -/
  | last {line : List Char} (hne : line ≠ []) (hline : '\n' ∉ line) :
      IsLines line [line]
  /-- The line ends at a line feed. -/
  | feed {line rest : List Char} {lines : List (List Char)} (hline : '\n' ∉ line)
      (hreturn : line.getLast? ≠ some '\r') (hrest : IsLines rest lines) :
      IsLines (line ++ '\n' :: rest) (line :: lines)
  /-- The line ends at a carriage return with a line feed. -/
  | returnFeed {line rest : List Char} {lines : List (List Char)} (hline : '\n' ∉ line)
      (hrest : IsLines rest lines) :
      IsLines (line ++ '\r' :: '\n' :: rest) (line :: lines)

/-! ## Carriage returns -/

theorem dropReturn_of_getLast? {line : List Char} (h : line.getLast? ≠ some '\r') :
    dropReturn line = line := by
  unfold dropReturn
  split
  · rename_i rest hreverse
    have hline : line = rest.reverse ++ ['\r'] := by
      rw [← List.reverse_reverse line, hreverse, List.reverse_cons]
    rw [hline, List.getLast?_concat] at h
    exact absurd rfl h
  · rfl

theorem dropReturn_concat (line : List Char) : dropReturn (line ++ ['\r']) = line := by
  simp [dropReturn]

/-! ## Finding the lines -/

/-- The pieces that end are lines, and what follows the last line feed is one
unless it is empty. -/
theorem splitLines_of_pieces {cs last : List Char} {ended : List (List Char)}
    (h : pieces (· == '\n') cs = ended ++ [last]) :
    splitLines cs = ended.map dropReturn ++ if last.isEmpty then [] else [last] := by
  simp [splitLines, h]

theorem splitLines_of_not_mem {line : List Char} (hline : '\n' ∉ line) :
    splitLines line = if line.isEmpty then [] else [line] := by
  have hpieces : pieces (· == '\n') line = [] ++ [line] := pieces_of_not_mem hline
  rw [splitLines_of_pieces hpieces]
  rfl

theorem splitLines_append_cons {line : List Char} (hline : '\n' ∉ line)
    (rest : List Char) :
    splitLines (line ++ '\n' :: rest) = dropReturn line :: splitLines rest := by
  have hne : pieces (· == '\n') rest ≠ [] := by
    rw [pieces_eq_splitOnP]
    exact List.splitOnP_ne_nil _ rest
  obtain ⟨ended, last, hrest⟩ := (List.eq_nil_or_concat' _).resolve_left hne
  have hpieces : pieces (· == '\n') (line ++ '\n' :: rest) =
      (line :: ended) ++ [last] := by
    rw [pieces_append_cons, pieces_of_not_mem hline, hrest]
    rfl
  rw [splitLines_of_pieces hpieces, splitLines_of_pieces hrest]
  rfl

/-! ## The lines and what is found -/

theorem IsLines.splitLines_eq {cs : List Char} {lines : List (List Char)}
    (h : IsLines cs lines) : splitLines cs = lines := by
  induction h with
  | nil => rfl
  | last hne hline => rw [splitLines_of_not_mem hline, if_neg (by simpa using hne)]
  | feed hline hreturn _ ih =>
      rw [splitLines_append_cons hline, dropReturn_of_getLast? hreturn, ih]
  | @returnFeed line rest lines hline _ ih =>
      have hmem : '\n' ∉ line ++ ['\r'] := by simpa using hline
      have hsplit :
          line ++ '\r' :: '\n' :: rest = (line ++ ['\r']) ++ '\n' :: rest := by simp
      rw [hsplit, splitLines_append_cons hmem, dropReturn_concat, ih]

/-- A line feed ends the first line of a text, whatever stands before it. -/
theorem IsLines.of_dropReturn {line rest : List Char} {lines : List (List Char)}
    (hline : '\n' ∉ line) (hrest : IsLines rest lines) :
    IsLines (line ++ '\n' :: rest) (dropReturn line :: lines) := by
  by_cases hreturn : line.getLast? = some '\r'
  · obtain ⟨front, rfl⟩ := List.getLast?_eq_some_iff.1 hreturn
    have hfront : '\n' ∉ front := fun hmem => hline (List.mem_append_left _ hmem)
    rw [dropReturn_concat, List.append_assoc]
    exact .returnFeed hfront hrest
  · rw [dropReturn_of_getLast? hreturn]
    exact .feed hline hreturn hrest

theorem isLines_splitLines (cs : List Char) : IsLines cs (splitLines cs) := by
  -- each line feed leaves a shorter text behind it
  induction hlength : cs.length using Nat.strong_induction_on generalizing cs with
  | _ length ih =>
      by_cases hmem : '\n' ∈ cs
      · obtain ⟨line, rest, rfl, hline⟩ := List.eq_append_cons_of_mem hmem
        rw [splitLines_append_cons hline]
        refine .of_dropReturn hline (ih rest.length ?_ rest rfl)
        rw [← hlength, List.length_append, List.length_cons]
        omega
      · rw [splitLines_of_not_mem hmem]
        cases cs with
        | nil => exact .nil
        | cons c cs => exact .last (List.cons_ne_nil c cs) hmem

/-- A text has the lines that are found in it, and no others. -/
theorem isLines_iff {cs : List Char} {lines : List (List Char)} :
    IsLines cs lines ↔ splitLines cs = lines := by
  constructor
  · exact IsLines.splitLines_eq
  · rintro rfl
    exact isLines_splitLines cs

theorem IsLines.not_mem {cs : List Char} {lines : List (List Char)}
    (h : IsLines cs lines) :
    ∀ line ∈ lines, '\n' ∉ line := by
  induction h with
  | nil => exact nofun
  | last _ hline => simpa using hline
  | feed hline _ _ ih => exact List.forall_mem_cons.2 ⟨hline, ih⟩
  | returnFeed hline _ ih => exact List.forall_mem_cons.2 ⟨hline, ih⟩

/-- A carriage return alone belongs to its line, and empty lines count. -/
example : IsLines "a\r\n\r\r\n\nb\r".toList [['a'], ['\r'], [], ['b', '\r']] :=
  isLines_iff.2 (by decide)

end CounterTables.Text
