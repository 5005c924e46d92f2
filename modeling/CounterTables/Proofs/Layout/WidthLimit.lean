import Mathlib
import CounterTables.Proofs.Layout.Alignment

/-!
# The limit of widths

Padding goes up to 65535 characters, and a column is as wide as its widest entry
asks for. Nothing on the way from a document to its columns bounds an entry:
names, units, formulas and lists of names may all be longer than that. So a
product has its tables just if none of the texts in its columns takes more than
65531 characters, escaped, which leaves four for the gutter.

The limit holds for a line even where its column needs no padding. A single text
beyond it therefore takes all tables of its product away.

## Main results

* `areLaidOut_productLines_iff` — the lines of a product exist just if all its
  columns are within the limit.
* `fit_measure_iff` — the columns are within the limit just if the texts in them
  are.
* `product_laid_out_iff` — both for what a document describes.
* `longName_not_laid_out` — a group whose name is one character too long.
-/

namespace CounterTables.Layout

open CounterTables.Document (readProduct)
open CounterTables.Text (maxWidth)

/-! ## All columns -/

/-- The widths of all columns. -/
def Widths.columns (widths : Widths) : List Nat :=
  [widths.events.name, widths.metrics.name, widths.metrics.events,
    widths.metrics.source, widths.metrics.compiled, widths.metrics.units,
    widths.groups.name, widths.groups.members]

/-- No column is wider than padding goes. -/
def Widths.Fit (widths : Widths) : Prop :=
  ∀ width ∈ widths.columns, width ≤ maxWidth

/-- The texts that stand in columns. -/
def columnTexts (tables : ProductTables) : List String :=
  (tables.events.flatMap fun event => [event.upperName, event.lowerName]) ++
    (tables.metrics.flatMap fun metric =>
      [metric.name, metric.eventsColumn, metric.sourceColumn,
        metric.compiledColumn, metric.units]) ++
    tables.groups.flatMap fun group => [group.name, group.membersColumn]

/-- The columns fit just if every text in them leaves room for the gutter. -/
theorem fit_measure_iff {tables : ProductTables} :
    (Widths.measure tables).Fit ↔
      ∀ text ∈ columnTexts tables, escapedLength text + gutter ≤ maxWidth := by
  have hgutter : gutter ≤ maxWidth := by decide
  simp only [Widths.Fit, Widths.columns, Widths.measure, EventWidths.measure,
    MetricWidths.measure, GroupWidths.measure, List.forall_mem_cons,
    columnWidth_le_iff hgutter, List.forall_mem_map, columnTexts,
    List.forall_mem_append, List.forall_mem_flatMap, List.not_mem_nil,
    IsEmpty.forall_iff, implies_true, and_true, forall_and, and_assoc]

/-! ## Lines -/

theorem Row.isSome_line_iff {row : Row} : row.line.isSome ↔ row.Fits := by
  simp [Option.isSome_iff_exists, Row.line_eq_some_iff]

theorem isSome_eventLine_iff {product : String} {widths : EventWidths} {event : Event} :
    (eventLine product widths event).isSome ↔ widths.name ≤ maxWidth := by
  rw [eventLine_eq_line, Row.isSome_line_iff]
  simp [Row.Fits, eventRow, Cell.quoted]

theorem isSome_metricLine_iff {product : String} {widths : MetricWidths}
    {metric : Metric} :
    (metricLine product widths metric).isSome ↔
      widths.name ≤ maxWidth ∧ widths.events ≤ maxWidth ∧ widths.source ≤ maxWidth ∧
        widths.compiled ≤ maxWidth ∧ widths.units ≤ maxWidth := by
  rw [metricLine_eq_line, Row.isSome_line_iff]
  simp [Row.Fits, metricRow, Cell.quoted]

theorem isSome_groupLine_iff {product : String} {widths : GroupWidths}
    {group : MetricGroup} :
    (groupLine product widths group).isSome ↔
      widths.name ≤ maxWidth ∧ widths.members ≤ maxWidth := by
  rw [groupLine_eq_line, Row.isSome_line_iff]
  simp [Row.Fits, groupRow, Cell.quoted]

/-- All records of a kind fit the columns of the kind just if the columns fit,
because the columns of no records do. -/
theorem forall_records_iff {α : Type} {records : List α} {Fits : Prop}
    (hnone : records = [] → Fits) : (∀ record ∈ records, Fits) ↔ Fits := by
  cases records with
  | nil => simp [hnone rfl]
  | cons record more =>
      exact ⟨fun h => h record List.mem_cons_self, fun h _ _ => h⟩

/-- The lines of a product exist just if all its columns are within the
limit. -/
theorem areLaidOut_productLines_iff {tables : ProductTables} :
    areLaidOut (productLines tables) = true ↔ (Widths.measure tables).Fit := by
  have hgutter : columnWidth [] ≤ maxWidth := by decide
  have hconfig : ∀ line ∈ tables.config.elim [] configLines, line.isSome := by
    cases tables.config <;> simp [configLines, comment]
  have hevents : (∀ event ∈ tables.events,
      (eventLine tables.product (Widths.measure tables).events event).isSome) ↔
        (Widths.measure tables).events.name ≤ maxWidth := by
    simp only [isSome_eventLine_iff]
    refine forall_records_iff fun hnone => ?_
    simpa [Widths.measure, EventWidths.measure, hnone] using hgutter
  have hmetrics : (∀ metric ∈ tables.metrics,
      (metricLine tables.product (Widths.measure tables).metrics metric).isSome) ↔
        let widths := (Widths.measure tables).metrics
        widths.name ≤ maxWidth ∧ widths.events ≤ maxWidth ∧ widths.source ≤ maxWidth ∧
          widths.compiled ≤ maxWidth ∧ widths.units ≤ maxWidth := by
    simp only [isSome_metricLine_iff]
    refine forall_records_iff fun hnone => ?_
    simpa [Widths.measure, MetricWidths.measure, hnone] using hgutter
  have hgroups : (∀ group ∈ tables.groups,
      (groupLine tables.product (Widths.measure tables).groups group).isSome) ↔
        let widths := (Widths.measure tables).groups
        widths.name ≤ maxWidth ∧ widths.members ≤ maxWidth := by
    simp only [isSome_groupLine_iff]
    refine forall_records_iff fun hnone => ?_
    simpa [Widths.measure, GroupWidths.measure, hnone] using hgutter
  have hlines : areLaidOut (productLines tables) = true ↔
      (∀ event ∈ tables.events,
        (eventLine tables.product (Widths.measure tables).events event).isSome) ∧
      (∀ metric ∈ tables.metrics,
        (metricLine tables.product (Widths.measure tables).metrics metric).isSome) ∧
      ∀ group ∈ tables.groups,
        (groupLine tables.product (Widths.measure tables).groups group).isSome := by
    simp only [areLaidOut, List.all_eq_true, productLines, sectionLines, comment,
      emptyLine, List.forall_mem_append, List.forall_mem_cons, List.forall_mem_map,
      List.not_mem_nil, IsEmpty.forall_iff, implies_true, Option.isSome_some, and_true,
      true_and, and_assoc]
    exact and_iff_right hconfig
  rw [hlines, hevents, hmetrics, hgroups]
  simp only [Widths.Fit, Widths.columns, List.forall_mem_cons, List.not_mem_nil,
    IsEmpty.forall_iff, implies_true, and_true, and_assoc]

/-! ## Products -/

/-- **A product is laid out just if its columns fit.** Whatever the document,
its tables exist just if no measured width is beyond the limit, which is the
case just if every text in a column takes at most 65531 characters between its
quotes. -/
theorem product_laid_out_iff (product : String) (document : Json.Fields) :
    let tables := (readProduct product document).tables
    ((render (productLines tables)).isSome ↔
      ∀ width ∈ (Widths.measure tables).columns, width ≤ 65535) ∧
    ((render (productLines tables)).isSome ↔
      ∀ text ∈ columnTexts tables, escapedLength text ≤ 65531) := by
  intro tables
  have hfit : (render (productLines tables)).isSome ↔ (Widths.measure tables).Fit := by
    rw [isSome_render_iff, areLaidOut_productLines_iff]
  refine ⟨hfit, hfit.trans (fit_measure_iff.trans ?_)⟩
  refine forall₂_congr fun text _ => ?_
  unfold gutter maxWidth
  omega

/-! ## A name beyond the limit -/

theorem escapedLength_replicate (count : Nat) {c : Char} (h : escapedWidth c = 1) :
    escapedLength (String.ofList (List.replicate count c)) = count := by
  rw [escapedLength, String.toList_ofList]
  induction count with
  | zero => rfl
  | succ count ih =>
      rw [List.replicate_succ, List.foldr_cons, ih, h, Nat.add_comm]

/-- A product with an event, and with a group of this name. -/
def groupDocument (name : String) : Json.Fields :=
  [("events", .object [("cycles", .object [("code", .string "0x11")])]),
    ("groups", .object [("metrics", .object [(name, .object [])])])]

theorem groupWidth_groupDocument {name : String} (h : name ≠ "") :
    (Widths.measure (readProduct "n1" (groupDocument name)).tables).groups.name =
      escapedLength name + gutter := by
  have hgroups : (readProduct "n1" (groupDocument name)).tables.groups =
      [⟨name, [], "", ""⟩] := by
    show Document.kept (Document.readEntry Document.buildGroup) [(name, .object [])] = _
    have hread : Document.readEntry Document.buildGroup (name, .object []) =
        .ok ⟨name, [], "", ""⟩ := by
      rw [Document.readEntry, if_neg h]
      rfl
    simp [Document.kept, hread, Except.toOption]
  simp [Widths.measure, GroupWidths.measure, hgroups, columnWidth, widest]

/-- A name of 65532 letters. -/
def longName : String :=
  String.ofList (List.replicate 65532 'g')

/-- The column of the name is one character too wide, so the product has no
tables at all. -/
theorem longName_not_laid_out :
    (Widths.measure
      (readProduct "n1" (groupDocument longName)).tables).groups.name = 65536 ∧
      render (productLines (readProduct "n1" (groupDocument longName)).tables) =
        none := by
  have hlength : escapedLength longName = 65532 :=
    escapedLength_replicate 65532 (by decide)
  have hname : longName ≠ "" := by
    intro hempty
    rw [hempty] at hlength
    exact absurd hlength (by decide)
  have hwidth := groupWidth_groupDocument hname
  rw [hlength] at hwidth
  refine ⟨hwidth, ?_⟩
  rw [← Option.not_isSome_iff_eq_none, isSome_render_iff, areLaidOut_productLines_iff]
  intro hfit
  have hle :
      (Widths.measure (readProduct "n1" (groupDocument longName)).tables).groups.name ≤
      maxWidth :=
        hfit _ (by simp only [Widths.columns, List.mem_cons, true_or, or_true])
  rw [hwidth] at hle
  exact absurd hle (by decide)

end CounterTables.Layout
