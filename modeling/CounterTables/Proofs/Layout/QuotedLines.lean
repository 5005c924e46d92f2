import Mathlib
import CounterTables.Proofs.Layout.Fields

/-!
# Lines that can be read back

The lines of metrics, of groups and of aliases hold quoted text only. Texts may
contain whatever ends a field or a line: quotes, commas, parentheses,
backslashes, spaces at the end, line feeds. Between quotes none of these is
taken for the end, so a reader that knows neither the widths of the columns nor
the record finds the texts again, and two records with different texts never
share a line.

## Main results

* `Row.readLine_text` — the texts of a row of quoted cells are read back.
* `Row.lineFeed_mem_text_iff` — a row has a line end inside just if a cell has.
* `Row.lineFeed_not_mem_text` — a row of quoted cells has none.
* `quoted_lines_read_back` — both for metrics, groups and aliases, and what
  follows for two records with the same line.
-/

namespace CounterTables.Layout

open CounterTables.Text (maxWidth)

/-! ## Rows of quoted cells -/

/-- The texts of a row of quoted cells are read back from its line. -/
theorem Row.readLine_text {row : Row} {texts : List String}
    (h : row.Shows texts) (hne : texts ≠ []) :
    readLine row.macroName (endLine row.text) = some texts := by
  obtain ⟨fields, hfields, htexts⟩ := h.paddedFields
  have hfieldsNe : fields ≠ [] := by
    rintro rfl
    exact hne htexts.symm
  rw [Row.text, hfields, readLine_invocation _ hfieldsNe, htexts]

/-! ## Line ends -/

theorem lineFeed_not_mem_escape (c : Char) : '\n' ∉ escape c := by
  unfold escape
  split
  · decide
  split
  · decide
  split
  · decide
  · rename_i hLine
    intro hmem
    exact hLine (List.mem_singleton.1 hmem).symm

theorem lineFeed_not_mem_encode (cs : List Char) : '\n' ∉ encode cs := by
  intro hmem
  obtain ⟨c, -, hc⟩ := List.mem_flatMap.1 hmem
  exact lineFeed_not_mem_escape c hc

theorem lineFeed_not_mem_quote (text : String) : '\n' ∉ (quote text).toList := by
  simp [quote, lineFeed_not_mem_encode]

theorem Cell.lineFeed_mem_written_iff {cell : Cell} :
    '\n' ∈ cell.written.toList ↔ '\n' ∈ cell.content.toList := by
  obtain ⟨content, _ | width⟩ := cell
  · rfl
  · simp [Cell.written, padded]

/-- A character other than the separator is in joined fields just if it is in
one of them. -/
theorem mem_intercalate_iff {sep c : Char} (hc : c ≠ sep) {fields : List (List Char)} :
    c ∈ [sep].intercalate fields ↔ ∃ field ∈ fields, c ∈ field := by
  induction fields with
  | nil => simp
  | cons field more ih =>
      cases more with
      | nil => simp
      | cons next others =>
          rw [List.intercalate_cons_cons, List.append_assoc, List.mem_append,
            List.mem_append, List.mem_singleton, ih]
          simp [hc]

/-- A row holds a line end just if one of its cells does. -/
theorem Row.lineFeed_mem_text_iff {row : Row} (hname : '\n' ∉ row.macroName.toList) :
    '\n' ∈ row.text.toList ↔ ∃ cell ∈ row.cells, '\n' ∈ cell.content.toList := by
  have htext : row.text.toList = row.macroName.toList ++ '(' ::
      ([','].intercalate (row.fields.map String.toList) ++ [')']) := by
    simp [Row.text, invocation, String.toList_intercalate]
  have hfields : '\n' ∈ [','].intercalate (row.fields.map String.toList) ↔
      ∃ cell ∈ row.cells, '\n' ∈ cell.content.toList := by
    rw [mem_intercalate_iff (by decide)]
    simp [Row.fields, Cell.lineFeed_mem_written_iff]
  rw [htext, ← hfields]
  simp [hname]

/-- The cells of a row of quoted texts are quoted. -/
theorem Row.Shows.exists_quoted {row : Row} {texts : List String} (h : row.Shows texts)
    {cell : Cell} (hcell : cell ∈ row.cells) :
    ∃ text column, cell = Cell.quoted text column := by
  unfold Row.Shows at h
  generalize row.cells = cells at h hcell
  induction h with
  | nil => exact absurd hcell List.not_mem_nil
  | @cons first text _ _ hfirst _ ih =>
      rcases List.mem_cons.1 hcell with rfl | hrest
      · exact ⟨text, hfirst⟩
      · exact ih hrest

theorem Row.lineFeed_not_mem_text {row : Row} {texts : List String}
    (h : row.Shows texts) (hname : '\n' ∉ row.macroName.toList) :
    '\n' ∉ row.text.toList := by
  rw [Row.lineFeed_mem_text_iff hname]
  rintro ⟨cell, hcell, hmem⟩
  obtain ⟨text, column, rfl⟩ := h.exists_quoted hcell
  exact lineFeed_not_mem_quote text hmem

/-! ## The macro of a line -/

/-- The macro's name ends at the first parenthesis. -/
theorem Row.takeWhile_text {row : Row} (hname : '(' ∉ row.macroName.toList) :
    (String.join (endLine row.text)).toList.takeWhile (· != '(') =
      row.macroName.toList := by
  have htext : (String.join (endLine row.text)).toList =
      row.macroName.toList ++ '(' ::
        ((",".intercalate row.fields).toList ++ [')', '\n']) := by
    simp [endLine, Row.text, invocation]
  have hall : ∀ c ∈ row.macroName.toList, (c != '(') = true := by
    intro c hc
    rw [bne_iff_ne]
    rintro rfl
    exact hname hc
  rw [htext, List.takeWhile_append_of_pos hall, List.takeWhile_cons_of_neg (by decide),
    List.append_nil]

/-! ## Metrics, groups and aliases -/

/-- A record whose line holds quoted text only, with the widths of its
columns. -/
inductive QuotedRecord
  | ofMetric (widths : MetricWidths) (metric : Metric)
  | ofGroup (widths : GroupWidths) (group : MetricGroup)
  /-- A product whose tables are those of `target`. -/
  | ofAlias (target : String)

namespace QuotedRecord

def macroName : QuotedRecord → String
  | ofMetric _ _ => "WPERF_TS_METRICS"
  | ofGroup _ _ => "WPERF_TS_GROUPS_METRICS"
  | ofAlias _ => "WPERF_TS_ALIAS"

/-- The widths that the fields of the record are padded to. -/
def columnWidths : QuotedRecord → List Nat
  | ofMetric widths _ =>
      [widths.name, widths.events, widths.source, widths.compiled, widths.units]
  | ofGroup widths _ => [widths.name, widths.members]
  | ofAlias _ => []

/-- The texts of the record, in the order of its fields. -/
def texts (product : String) : QuotedRecord → List String
  | ofMetric _ metric =>
      [product, metric.name, metric.eventsColumn, metric.sourceColumn,
        metric.compiledColumn, metric.units, metric.title]
  | ofGroup _ group =>
      [product, group.name, group.membersColumn, group.title, group.description]
  | ofAlias target => [product, target]

def line (product : String) : QuotedRecord → Option Line
  | ofMetric widths metric => metricLine product widths metric
  | ofGroup widths group => groupLine product widths group
  | ofAlias target => some (aliasLine product target)

def row (product : String) : QuotedRecord → Row
  | ofMetric widths metric => metricRow product widths metric
  | ofGroup widths group => groupRow product widths group
  | ofAlias target => aliasRow product target

theorem line_eq_line_row (product : String) (record : QuotedRecord) :
    record.line product = (record.row product).line := by
  cases record with
  | ofMetric widths metric => exact metricLine_eq_line product widths metric
  | ofGroup widths group => exact groupLine_eq_line product widths group
  | ofAlias target => exact aliasLine_eq_line product target

theorem macroName_row (product : String) (record : QuotedRecord) :
    (record.row product).macroName = record.macroName := by
  cases record <;> rfl

theorem shows_row (product : String) (record : QuotedRecord) :
    (record.row product).Shows (record.texts product) := by
  cases record <;>
    simp [Row.Shows, row, texts, metricRow, groupRow, aliasRow, Cell.quoted]

theorem texts_ne_nil (product : String) (record : QuotedRecord) :
    record.texts product ≠ [] := by
  cases record <;> exact List.cons_ne_nil _ _

theorem fits_row {product : String} {record : QuotedRecord}
    (h : ∀ width ∈ record.columnWidths, width ≤ maxWidth) :
    (record.row product).Fits := by
  cases record with
  | ofMetric widths metric =>
      simpa [Row.Fits, row, columnWidths, metricRow, Cell.quoted] using h
  | ofGroup widths group =>
      simpa [Row.Fits, row, columnWidths, groupRow, Cell.quoted] using h
  | ofAlias target => simp [Row.Fits, row, aliasRow, Cell.quoted]

theorem line_eq_some_iff {product : String} {record : QuotedRecord} {line : Line} :
    record.line product = some line ↔
      (record.row product).Fits ∧ line = endLine (record.row product).text := by
  rw [line_eq_line_row, Row.line_eq_some_iff]

/-- No name of a macro holds what ends it, or ends its line. -/
theorem not_mem_macroName (record : QuotedRecord) :
    '(' ∉ record.macroName.toList ∧ '\n' ∉ record.macroName.toList := by
  cases record <;> dsimp only [macroName] <;> decide

theorem readLine_text (product : String) (record : QuotedRecord) :
    readLine record.macroName (endLine (record.row product).text) =
      some (record.texts product) := by
  rw [← record.macroName_row product]
  exact Row.readLine_text (record.shows_row product) (record.texts_ne_nil product)

/-- The text of a line tells its macro. -/
theorem macroName_eq_of_join_eq {product product' : String}
    {record record' : QuotedRecord}
    (h : String.join (endLine (record.row product).text) =
      String.join (endLine (record'.row product').text)) :
    record.macroName = record'.macroName := by
  have hname : ∀ product record,
      (String.join (endLine (row product record).text)).toList.takeWhile (· != '(') =
        record.macroName.toList := by
    intro product record
    have hparenthesis := record.not_mem_macroName.1
    rw [← record.macroName_row product] at hparenthesis ⊢
    exact Row.takeWhile_text hparenthesis
  rw [← String.toList_inj, ← hname product record, ← hname product' record', h]

end QuotedRecord

/-- **Lines of quoted text are read back.** A metric, a group or an alias has a
line whenever no width is beyond what padding goes to. The line holds its first
line feed at its end, and a reader finds the texts of the record in it; so
another record with the same line has the same macro and texts. -/
theorem quoted_lines_read_back (product : String) (record : QuotedRecord)
    (hwidths : ∀ width ∈ record.columnWidths, width ≤ maxWidth) :
    ∃ line, record.line product = some line ∧
      (∃ text, String.join line = text ++ "\n" ∧ '\n' ∉ text.toList) ∧
      readLine record.macroName line = some (record.texts product) ∧
      ∀ (product' : String) (record' : QuotedRecord) (line' : Line),
        record'.line product' = some line' →
          String.join line' = String.join line →
            record'.macroName = record.macroName ∧
              record'.texts product' = record.texts product := by
  have hreads := record.readLine_text product
  refine ⟨endLine (record.row product).text, ?_, ?_, hreads, ?_⟩
  · exact QuotedRecord.line_eq_some_iff.2 ⟨QuotedRecord.fits_row hwidths, rfl⟩
  · refine ⟨(record.row product).text, by simp [endLine], ?_⟩
    have hname := record.not_mem_macroName.2
    rw [← record.macroName_row product] at hname
    exact Row.lineFeed_not_mem_text (record.shows_row product) hname
  · intro product' record' line' hline hjoin
    obtain ⟨-, rfl⟩ := QuotedRecord.line_eq_some_iff.1 hline
    have hsame := QuotedRecord.macroName_eq_of_join_eq hjoin
    refine ⟨hsame, Option.some.inj ?_⟩
    -- the reader sees the text only, and the texts are equal
    rw [← record'.readLine_text product', ← hreads, hsame]
    unfold readLine
    rw [hjoin]

/-- A group whose texts hold quotes, commas, parentheses, backslashes, spaces
and line feeds where a field could seem to end. -/
def crowdedGroup : QuotedRecord :=
  .ofGroup ⟨4, 9⟩ ⟨"a\",\"b)  ", ["X\\", "\n)\n"], "\\\",\"", "n "⟩

theorem crowdedGroup_reads_back :
    (∀ width ∈ crowdedGroup.columnWidths, width ≤ maxWidth) ∧
    ∃ line, crowdedGroup.line "n1\\" = some line ∧
      (∃ text, String.join line = text ++ "\n" ∧ '\n' ∉ text.toList) ∧
      readLine crowdedGroup.macroName line = some (crowdedGroup.texts "n1\\") ∧
      ∀ (product' : String) (record' : QuotedRecord) (line' : Line),
        record'.line product' = some line' →
          String.join line' = String.join line →
            record'.macroName = crowdedGroup.macroName ∧
              record'.texts product' = crowdedGroup.texts "n1\\" := by
  have hwidths : ∀ width ∈ crowdedGroup.columnWidths, width ≤ maxWidth := by decide
  exact ⟨hwidths, quoted_lines_read_back "n1\\" crowdedGroup hwidths⟩

end CounterTables.Layout
