import Mathlib
import CounterTables.Proofs.Layout.Alignment

/-!
# The lines of a product

Output is written piece by piece, and what is read is one text. The text of a
product is made of rows with a line end each: comments, empty lines, and one row
for every record. A reader who cuts the text at its line ends finds these rows
again just if none of them holds a line end itself.

## Main results

* `linesOf_join` — the lines of a text that is made of rows.
* `linesOf_join_iff` — when these are the rows themselves.
* `render_productLines_eq` — the text of a product is made of its rows.
-/

namespace CounterTables.Layout

open CounterTables.Text (pieces cutAt pieces_eq_splitOnP pieces_of_not_mem
  pieces_append_cons)

/-! ## Pieces -/

/-- No piece holds what the text was cut at. -/
theorem not_mem_of_mem_pieces {sep : Char} {cs piece : List Char}
    (h : piece ∈ pieces (· == sep) cs) : sep ∉ piece := by
  induction cs generalizing piece with
  | nil =>
      rw [List.mem_singleton.1 h]
      exact List.not_mem_nil
  | cons c rest ih =>
      have hcut : pieces (· == sep) (c :: rest) =
          cutAt (· == sep) c (pieces (· == sep) rest) := rfl
      rw [hcut] at h
      by_cases hc : c = sep
      · cases hrest : pieces (· == sep) rest with
        | nil => simp_all [cutAt]
        | cons first more =>
            rw [hrest] at h ih
            simp only [cutAt, hc, beq_self_eq_true, if_true] at h
            rcases List.mem_cons.1 h with rfl | hmem
            · exact List.not_mem_nil
            · exact ih hmem
      · cases hrest : pieces (· == sep) rest with
        | nil => simp_all [cutAt, Ne.symm hc]
        | cons first more =>
            rw [hrest] at h ih
            simp only [cutAt, beq_iff_eq, hc, if_false] at h
            rcases List.mem_cons.1 h with rfl | hmem
            · rw [List.mem_cons, not_or]
              exact ⟨Ne.symm hc, ih List.mem_cons_self⟩
            · exact ih (List.mem_cons_of_mem first hmem)

/-- Fields with a separator between them are the pieces just if none holds
it. -/
theorem pieces_intercalate_iff {sep : Char} {fields : List (List Char)}
    (hne : fields ≠ []) :
    pieces (· == sep) ([sep].intercalate fields) = fields ↔
      ∀ field ∈ fields, sep ∉ field := by
  constructor
  · intro h field hfield
    rw [← h] at hfield
    exact not_mem_of_mem_pieces hfield
  · intro h
    rw [pieces_eq_splitOnP]
    exact List.splitOn_intercalate sep h hne

/-! ## Lines -/

/-- The lines of a text in which every line has its end. -/
def linesOf (text : String) : List String :=
  (pieces (· == '\n') text.toList).dropLast.map String.ofList

/-- A text that is made of rows has the pieces of the rows in turn, and behind
the last line end one more, without characters. -/
theorem pieces_join (rows : List String) :
    pieces (· == '\n') (String.join (rows.map (· ++ "\n"))).toList =
      (rows.flatMap fun row => pieces (· == '\n') row.toList) ++ [[]] := by
  induction rows with
  | nil => rfl
  | cons row more ih =>
      have htext : (String.join ((row :: more).map (· ++ "\n"))).toList =
          row.toList ++ '\n' :: (String.join (more.map (· ++ "\n"))).toList := by
        simp
      rw [htext, pieces_append_cons, ih, List.flatMap_cons, List.append_assoc]

/-- The lines of a text that is made of rows are the pieces of the rows in
turn. -/
theorem linesOf_join (rows : List String) :
    linesOf (String.join (rows.map (· ++ "\n"))) =
      rows.flatMap fun row => (pieces (· == '\n') row.toList).map String.ofList := by
  rw [linesOf, pieces_join, List.dropLast_concat, List.map_flatMap]

/-- A text falls into the rows it was made of just if none holds a line end. -/
theorem linesOf_join_iff {rows : List String} :
    linesOf (String.join (rows.map (· ++ "\n"))) = rows ↔
      ∀ row ∈ rows, '\n' ∉ row.toList := by
  rw [linesOf_join]
  constructor
  · intro h row hrow
    rw [← h] at hrow
    obtain ⟨first, -, hpiece⟩ := List.mem_flatMap.1 hrow
    obtain ⟨piece, hmem, rfl⟩ := List.mem_map.1 hpiece
    rw [String.toList_ofList]
    exact not_mem_of_mem_pieces hmem
  · intro h
    have hone : ∀ row ∈ rows,
        (pieces (· == '\n') row.toList).map String.ofList = [row] := by
      intro row hrow
      rw [pieces_of_not_mem (h row hrow), List.map_singleton, String.ofList_toList]
    rw [List.flatMap_congr hone]
    simp

/-! ## The texts of lines -/

/-- The text of a line, with its end. -/
def lineText (line : Option Line) : String :=
  String.join (line.getD [])

/-- What is written of lines that can all be laid out is their texts in turn. -/
theorem textOf_of_areLaidOut {lines : Lines} (h : areLaidOut lines = true) :
    textOf lines = String.join (lines.map lineText) := by
  induction lines with
  | nil => rfl
  | cons line rest ih =>
      obtain ⟨hline, hrest⟩ : line.isSome = true ∧ areLaidOut rest = true := by
        simpa [areLaidOut] using h
      have hpieces : piecesOf (line :: rest) = line.getD [] ++ piecesOf rest := by
        simp [piecesOf, hline]
      rw [textOf, hpieces, String.join_append, List.map_cons, String.join_cons,
        ← ih hrest]
      rfl

theorem lineText_comment (text : String) :
    lineText (comment text) = "// " ++ text ++ "\n" := by
  simp [lineText, comment, String.append_assoc]

theorem Row.lineText_line {row : Row} (h : row.line.isSome = true) :
    lineText row.line = row.text ++ "\n" := by
  obtain ⟨line, hline⟩ := Option.isSome_iff_exists.1 h
  obtain ⟨-, rfl⟩ := Row.line_eq_some_iff.1 hline
  simp [lineText, hline, endLine]

/-! ## Products -/

/-- The comment that names the columns of the configuration. -/
def columnComment (config : Configuration) : String :=
  "// " ++ ",".intercalate ("name" :: config.keys)

/-- The lines of a section, without their ends. -/
def sectionTexts (title product : String) (texts : List String) : List String :=
  ("// " ++ (title ++ " for: " ++ product)) :: texts ++ [""]

/-- The lines of a product, without their ends: one for each record. -/
def productTexts (tables : ProductTables) : List String :=
  let widths := Widths.measure tables
  let product := tables.product
  sectionTexts "Product configuration" product
      (tables.config.elim [] fun config =>
        [columnComment config, (configRow config).text])
    ++ sectionTexts "Events" product
      (tables.events.map fun event => (eventRow product widths.events event).text)
    ++ sectionTexts "Metrics" product
      (tables.metrics.map fun metric => (metricRow product widths.metrics metric).text)
    ++ sectionTexts "Metric Groups" product
      (tables.groups.map fun group => (groupRow product widths.groups group).text)

theorem map_lineText_sectionLines {title product : String} {lines : Lines}
    {texts : List String} (h : lines.map lineText = texts.map (· ++ "\n")) :
    (sectionLines title product lines).map lineText =
      (sectionTexts title product texts).map (· ++ "\n") := by
  have hempty : lineText emptyLine = "" ++ "\n" := rfl
  simp [sectionLines, sectionTexts, h, lineText_comment, hempty]

/-- The lines of records of one kind have the texts of their rows. -/
theorem map_lineText_rows {α : Type} {records : List α} {line : α → Option Line}
    {row : α → Row} (hrow : ∀ record, line record = (row record).line)
    (hlaid : ∀ record ∈ records, (line record).isSome = true) :
    (records.map line).map lineText =
      (records.map fun record => (row record).text).map (· ++ "\n") := by
  rw [List.map_map, List.map_map]
  refine List.map_congr_left fun record hrecord => ?_
  have hsome := hlaid record hrecord
  rw [hrow] at hsome
  show lineText (line record) = (row record).text ++ "\n"
  rw [hrow, Row.lineText_line hsome]

/-- The output of a product is made of its lines. -/
theorem render_productLines_eq {tables : ProductTables} {text : String}
    (h : render (productLines tables) = some text) :
    text = String.join ((productTexts tables).map (· ++ "\n")) := by
  have hlaid : areLaidOut (productLines tables) = true :=
    isSome_render_iff.1 (Option.isSome_iff_exists.2 ⟨text, h⟩)
  have hlines : ∀ line ∈ productLines tables, line.isSome = true :=
    List.all_eq_true.1 hlaid
  have hconfig : (tables.config.elim [] configLines).map lineText =
      (tables.config.elim [] fun config =>
        [columnComment config, (configRow config).text]).map (· ++ "\n") := by
    cases tables.config with
    | none => rfl
    | some config =>
        have hsome : (configRow config).line.isSome = true := by
          rw [← configLine_eq_line]
          rfl
        have hline : lineText (some (configLine config)) =
            (configRow config).text ++ "\n" := by
          rw [configLine_eq_line, Row.lineText_line hsome]
        have hcomment : lineText (comment (",".intercalate ("name" :: config.keys))) =
            columnComment config ++ "\n" := lineText_comment _
        simp [configLines, hline, hcomment]
  have hevents :=
    map_lineText_rows (fun event => eventLine_eq_line tables.product _ event)
    fun event hevent => hlines _ (eventLine_mem_productLines hevent)
  have hmetrics :=
    map_lineText_rows (fun metric => metricLine_eq_line tables.product _ metric)
    fun metric hmetric => hlines _ (metricLine_mem_productLines hmetric)
  have hgroups :=
    map_lineText_rows (fun group => groupLine_eq_line tables.product _ group)
    fun group hgroup => hlines _ (groupLine_mem_productLines hgroup)
  have htexts : (productLines tables).map lineText =
      (productTexts tables).map (· ++ "\n") := by
    simp only [productLines, productTexts, List.map_append,
      map_lineText_sectionLines hconfig, map_lineText_sectionLines hevents,
      map_lineText_sectionLines hmetrics, map_lineText_sectionLines hgroups]
  rw [render_of_areLaidOut hlaid, Option.some.injEq] at h
  rw [← h, textOf_of_areLaidOut hlaid, htexts]

end CounterTables.Layout
