import Mathlib
import CounterTables.Layout.Line

/-!
# Rows of cells

The line of a record is written field by field, and each field may fail. A `Row`
says the same as data: the macro's name and its cells, a cell being a text and
the column it stands in, if any. A row fails only by a column that is wider than
padding goes, and else is written as the texts of its cells, so what holds of
all fields is proved of a cell once.

## Main results

* `Row.line_eq_some_iff` — when a row is written, and as what.
* `eventLine_eq_line`, `metricLine_eq_line`, `groupLine_eq_line`,
  `aliasLine_eq_line`, `configLine_eq_line` — the lines of records are those of
  their rows.
-/

namespace CounterTables.Layout

open CounterTables.Text (maxWidth padRight_eq_some_iff)

/-! ## Cells -/

/-- A text with spaces behind it up to the width of its column. -/
def padded (width : Nat) (content : String) : String :=
  content ++ String.ofList (List.replicate (width - content.length) ' ')

theorem align_eq_some_iff {width : Nat} {content field : String} :
    align width content = some field ↔
      width ≤ maxWidth ∧ padded width content = field :=
  padRight_eq_some_iff

/-- A padded text has the width of its column, or its own if that is larger. -/
theorem length_padded (width : Nat) (content : String) :
    (padded width content).length = max width content.length := by
  simp only [padded, String.length_append, String.length_ofList,
    List.length_replicate]
  omega

/-- A field of a macro: what it holds, and the width of its column if it stands
in one. -/
structure Cell where
  content : String
  column : Option Nat

namespace Cell

/-- The field as it stands in the line. -/
def written (cell : Cell) : String :=
  match cell.column with
  | some width => padded width cell.content
  | none => cell.content

/-- The field, unless its column is wider than padding goes. -/
def write (cell : Cell) : Option String :=
  match cell.column with
  | some width => align width cell.content
  | none => some cell.content

/-- A cell of quoted text. -/
def quoted (text : String) (column : Option Nat) : Cell :=
  ⟨quote text, column⟩

theorem write_eq_some_iff {cell : Cell} {field : String} :
    cell.write = some field ↔
      (∀ width ∈ cell.column, width ≤ maxWidth) ∧ cell.written = field := by
  obtain ⟨content, column⟩ := cell
  cases column with
  | none => simp [write, written]
  | some width => simp [write, written, align_eq_some_iff]

end Cell

/-! ## Rows -/

/-- A macro with its cells. -/
structure Row where
  macroName : String
  cells : List Cell

namespace Row

/-- No column is wider than padding goes. -/
def Fits (row : Row) : Prop :=
  ∀ cell ∈ row.cells, ∀ width ∈ cell.column, width ≤ maxWidth

/-- The fields between the parentheses. -/
def fields (row : Row) : List String :=
  row.cells.map Cell.written

/-- The invocation, without its line end. -/
def text (row : Row) : String :=
  invocation row.macroName row.fields

/-- The line of the row, unless one of its columns is too wide. -/
def line (row : Row) : Option Line :=
  (row.cells.mapM Cell.write).map fun fields =>
    endLine (invocation row.macroName fields)

end Row

theorem mapM_write_eq_some_iff {cells : List Cell} {fields : List String} :
    cells.mapM Cell.write = some fields ↔
      (∀ cell ∈ cells, ∀ width ∈ cell.column, width ≤ maxWidth) ∧
        cells.map Cell.written = fields := by
  induction cells generalizing fields with
  | nil => simp
  | cons cell cells ih =>
      simp only [List.mapM_cons, Option.pure_def, Option.bind_eq_bind,
        Option.bind_eq_some_iff, Cell.write_eq_some_iff, ih,
        List.forall_mem_cons, List.map_cons]
      constructor
      · rintro ⟨_, ⟨hcell, rfl⟩, _, ⟨hcells, rfl⟩, hfields⟩
        exact ⟨⟨hcell, hcells⟩, Option.some.inj hfields⟩
      · rintro ⟨⟨hcell, hcells⟩, rfl⟩
        exact ⟨_, ⟨hcell, rfl⟩, _, ⟨hcells, rfl⟩, rfl⟩

/-- A row is written unless one of its columns is too wide, each cell as its own
text. -/
theorem Row.line_eq_some_iff {row : Row} {line : Line} :
    row.line = some line ↔ row.Fits ∧ line = endLine row.text := by
  simp only [Row.line, Option.map_eq_some_iff, mapM_write_eq_some_iff]
  constructor
  · rintro ⟨_, ⟨hfits, rfl⟩, rfl⟩
    exact ⟨hfits, rfl⟩
  · rintro ⟨hfits, rfl⟩
    exact ⟨_, ⟨hfits, rfl⟩, rfl⟩

/-! ## Rows of records -/

def eventRow (product : String) (widths : EventWidths) (event : Event) : Row where
  macroName := "WPERF_TS_EVENTS"
  cells := [.quoted product none, ⟨event.upperName, some widths.name⟩,
    ⟨event.code.hex4, none⟩, .quoted event.lowerName (some widths.name),
    .quoted event.title none, .quoted event.description none]

def metricRow (product : String) (widths : MetricWidths) (metric : Metric) : Row where
  macroName := "WPERF_TS_METRICS"
  cells := [.quoted product none, .quoted metric.name (some widths.name),
    .quoted metric.eventsColumn (some widths.events),
    .quoted metric.sourceColumn (some widths.source),
    .quoted metric.compiledColumn (some widths.compiled),
    .quoted metric.units (some widths.units), .quoted metric.title none]

def groupRow (product : String) (widths : GroupWidths) (group : MetricGroup) : Row where
  macroName := "WPERF_TS_GROUPS_METRICS"
  cells := [.quoted product none, .quoted group.name (some widths.name),
    .quoted group.membersColumn (some widths.members),
    .quoted group.title none, .quoted group.description none]

def aliasRow (product target : String) : Row where
  macroName := "WPERF_TS_ALIAS"
  cells := [.quoted product none, .quoted target none]

def configRow (config : Configuration) : Row where
  macroName := "WPERF_TS_PRODUCT_CONFIGURATION"
  cells := .quoted config.product none ::
    config.attributes.map fun entry => ⟨configField entry.2, none⟩

theorem eventLine_eq_line (product : String) (widths : EventWidths) (event : Event) :
    eventLine product widths event = (eventRow product widths event).line := by
  simp [eventLine, eventRow, Row.line, Cell.write, Cell.quoted, alignQuoted,
    Option.bind_assoc, Option.map_bind]

theorem metricLine_eq_line (product : String) (widths : MetricWidths)
    (metric : Metric) :
    metricLine product widths metric = (metricRow product widths metric).line := by
  simp [metricLine, metricRow, Row.line, Cell.write, Cell.quoted, alignQuoted,
    Option.bind_assoc, Option.map_bind]

theorem groupLine_eq_line (product : String) (widths : GroupWidths)
    (group : MetricGroup) :
    groupLine product widths group = (groupRow product widths group).line := by
  simp [groupLine, groupRow, Row.line, Cell.write, Cell.quoted, alignQuoted,
    Option.bind_assoc, Option.map_bind]

theorem aliasLine_eq_line (product target : String) :
    some (aliasLine product target) = (aliasRow product target).line := by
  simp [aliasLine, aliasRow, Row.line, Cell.write, Cell.quoted]

theorem configLine_eq_line (config : Configuration) :
    some (configLine config) = (configRow config).line := by
  have hfits : (configRow config).Fits := by
    intro cell hcell
    rcases List.mem_cons.1 hcell with rfl | hvalue
    · simp [Cell.quoted]
    · obtain ⟨entry, -, rfl⟩ := List.mem_map.1 hvalue
      simp
  rw [Row.line_eq_some_iff.2 ⟨hfits, rfl⟩]
  simp [configLine, configRow, Row.text, Row.fields, Cell.written, Cell.quoted,
    Function.comp_def]

end CounterTables.Layout
