import Mathlib
import CounterTables.Output.Sink
import CounterTables.Proofs.Layout.ProductLines
import CounterTables.Proofs.Text.LineEnds

/-!
# The licence as a block of comments

The licence stands before the tables, each of its lines behind a comment mark,
with an empty line at the end of the block. A line of the licence has no line
feed, so a reader who cuts the block at its line feeds has the comments before
him one by one. A comment without text is a bare mark and every other one has a
space behind its mark, so taking the marks away gives back the very lines, also
those that are empty, or begin with a mark of their own.

## Main results

* `uncomment_commented` — the line that a comment was made of.
* `pieces_licenseLines` — what the block is cut into.
* `license_block_reads_back` — the lines of the licence, and nothing else.
-/

namespace CounterTables.Layout

open CounterTables.Text (pieces pieces_of_not_mem splitLines IsLines isLines_splitLines)

/-! ## Comments -/

/-- A line as a comment. -/
def commented (line : List Char) : List Char :=
  if line.isEmpty then ['/', '/'] else '/' :: '/' :: ' ' :: line

/-- The line that a comment was made of; `none` if there is no comment mark. -/
def uncomment : List Char → Option (List Char)
  | ['/', '/'] => some []
  | '/' :: '/' :: ' ' :: line => some line
  | _ => none

theorem uncomment_commented (line : List Char) :
    uncomment (commented line) = some line := by
  cases line <;> rfl

theorem mark_prefix_commented (line : List Char) : ['/', '/'] <+: commented line := by
  unfold commented
  split
  · exact List.prefix_rfl
  · exact ⟨' ' :: line, rfl⟩

theorem lineFeed_not_mem_commented {line : List Char} (h : '\n' ∉ line) :
    '\n' ∉ commented line := by
  unfold commented
  split
  · decide
  · simpa using h

theorem lineText_licenseLine (line : List Char) :
    lineText (licenseLine line) = String.ofList (commented line) ++ "\n" := by
  unfold licenseLine commented
  split
  · rfl
  · rw [lineText_comment]
    simp [String.ext_iff]

/-! ## The block -/

theorem areLaidOut_licenseLines (text : String) :
    areLaidOut (licenseLines text) = true := by
  have hline : ∀ line, (licenseLine line).isSome := by
    intro line
    unfold licenseLine
    split <;> rfl
  simp [areLaidOut, licenseLines, emptyLine, hline]

/-- The rows of the block: the comments, and the empty one. -/
def licenseRows (text : String) : List String :=
  (splitLines text.toList).map (fun line => String.ofList (commented line)) ++ [""]

theorem textOf_licenseLines (text : String) :
    textOf (licenseLines text) = String.join ((licenseRows text).map (· ++ "\n")) := by
  have hempty : lineText emptyLine = "" ++ "\n" := rfl
  rw [textOf_of_areLaidOut (areLaidOut_licenseLines text)]
  simp [licenseLines, licenseRows, Function.comp_def, lineText_licenseLine, hempty]

/-- Cutting the block at its line feeds gives the comments, then the empty line,
and what stands behind the last line feed, which is nothing. -/
theorem pieces_licenseLines (text : String) :
    pieces (· == '\n') (textOf (licenseLines text)).toList =
      (splitLines text.toList).map commented ++ [[], []] := by
  have hcomments : ∀ line ∈ splitLines text.toList,
      pieces (· == '\n') (String.ofList (commented line)).toList =
        [commented line] := by
    intro line hline
    rw [String.toList_ofList]
    exact pieces_of_not_mem
      (lineFeed_not_mem_commented ((isLines_splitLines text.toList).not_mem line hline))
  have hempty : pieces (· == '\n') "".toList = [[]] := rfl
  rw [textOf_licenseLines, pieces_join, licenseRows, List.flatMap_append,
    List.flatMap_map, List.flatMap_congr hcomments, ← List.map_eq_flatMap,
    List.flatMap_singleton, hempty, List.append_assoc]
  rfl

/-- **The block holds the lines of the licence, as comments, and nothing else.**
Whatever the licence is, its block is written like one text. Cut at its line
feeds, this text is a list of comments, each with its mark, one empty line, and
nothing behind it. Without their marks the comments are the lines of the
licence, of which there is one reading only. -/
theorem license_block_reads_back (text : String) :
    ∃ lines comments : List (List Char),
      (∀ sink : Sink, sink.writeLines (licenseLines text) =
        sink.write (textOf (licenseLines text))) ∧
      pieces (· == '\n') (textOf (licenseLines text)).toList = comments ++ [[], []] ∧
      (∀ comment ∈ comments, ['/', '/'] <+: comment) ∧
      comments.map uncomment = lines.map some ∧
      ∀ others, IsLines text.toList others ↔ others = lines := by
  refine ⟨splitLines text.toList, (splitLines text.toList).map commented,
    ?_, ?_, ?_, ?_, ?_⟩
  · exact fun sink => sink.writeLines_of_areLaidOut (areLaidOut_licenseLines text)
  · exact pieces_licenseLines text
  · intro comment hcomment
    obtain ⟨line, -, rfl⟩ := List.mem_map.1 hcomment
    exact mark_prefix_commented line
  · rw [List.map_map]
    exact List.map_congr_left fun line _ => uncomment_commented line
  · intro others
    rw [Text.isLines_iff]
    exact eq_comm

/-- A line that is a comment already gets a mark of its own. -/
example :
    ((pieces (· == '\n') (textOf (licenseLines "//\r\n\n// x")).toList).dropLast.map
    uncomment) = [some ['/', '/'], some [], some ['/', '/', ' ', 'x'], none] := by
  decide

end CounterTables.Layout
