import Mathlib
import CounterTables.Document.Product
import CounterTables.Layout.Table
import CounterTables.Proofs.Layout.Rows

/-!
# Alignment of columns

The width of a column is measured on unquoted texts, and upper-case and
lower-case names of events share one width although only the latter are quoted
and escaped. Every field fits all the same: what is written is at most two
characters longer than what was measured, and the gutter has four. So each field
of a column is exactly as wide as the column, with two spaces or more at its
end, and all fields up to the first one behind the columns start at one place in
all lines of a section.

## Main results

* `Cell.fills` — a cell with room for two spaces fills its column.
* `Row.length_opening_eq` — where a field starts depends only on the lengths of
  the fields before it.
* `columns_line_up` — the columns of events, metrics and groups.
-/

namespace CounterTables.Layout

open CounterTables.Document (readProduct)
open CounterTables.Formula (compile)

/-! ## Measuring -/

theorem length_le_escapedLength (text : String) :
    text.length ≤ escapedLength text := by
  rw [← String.length_toList, escapedLength]
  induction text.toList with
  | nil => exact Nat.le_refl _
  | cons c cs ih =>
      have hc : 1 ≤ escapedWidth c := by
        unfold escapedWidth
        split <;> omega
      rw [List.length_cons, List.foldr_cons]
      omega

/-- A running maximum is within a bound just if its start and all entries
are. -/
theorem foldl_max_escapedLength_le_iff {entries : List String} {start bound : Nat} :
    entries.foldl (fun width entry => max width (escapedLength entry)) start ≤ bound ↔
      start ≤ bound ∧ ∀ entry ∈ entries, escapedLength entry ≤ bound := by
  induction entries generalizing start with
  | nil => simp
  | cons head tail ih =>
      rw [List.foldl_cons, ih, Nat.max_le, List.forall_mem_cons, and_assoc]

/-- A column is within a bound just if its entries are, with the gutter. -/
theorem columnWidth_le_iff {entries : List String} {bound : Nat} (h : gutter ≤ bound) :
    columnWidth entries ≤ bound ↔
      ∀ entry ∈ entries, escapedLength entry + gutter ≤ bound := by
  have hle : columnWidth entries ≤ bound ↔ widest entries ≤ bound - gutter := by
    unfold columnWidth
    omega
  rw [hle, widest, foldl_max_escapedLength_le_iff]
  constructor
  · rintro ⟨-, hentries⟩ entry hentry
    have hbound := hentries entry hentry
    omega
  · intro hentries
    refine ⟨Nat.zero_le _, fun entry hentry => ?_⟩
    have hbound := hentries entry hentry
    omega

/-- An entry and the gutter fit the column. -/
theorem escapedLength_add_gutter_le {entries : List String} {entry : String}
    (h : entry ∈ entries) : escapedLength entry + gutter ≤ columnWidth entries :=
  (columnWidth_le_iff (Nat.le_add_left _ _)).1 (Nat.le_refl _) entry h

theorem length_quote_add_two_le {entries : List String} {entry : String}
    (h : entry ∈ entries) : (quote entry).length + 2 ≤ columnWidth entries := by
  have hgutter := escapedLength_add_gutter_le h
  rw [length_quote]
  unfold gutter at hgutter
  omega

theorem length_add_two_le {entries : List String} {entry : String}
    (h : entry ∈ entries) : entry.length + 2 ≤ columnWidth entries := by
  have hgutter := escapedLength_add_gutter_le h
  have hlength := length_le_escapedLength entry
  unfold gutter at hgutter
  omega

/-- The code of an event takes six characters. -/
theorem length_hex4 (code : EventCode) : code.hex4.length = 6 := by
  have hdigits : (Nat.toDigits 16 code.value).length ≤ 4 :=
    Nat.toDigits_length 16 code.value 4 (by decide) code.value_lt
  have hmark : ("0x" : String).length = 2 := by decide
  simp only [EventCode.hex4, String.length_append, String.length_ofList,
    List.length_append, List.length_replicate, hmark]
  omega

/-! ## Cells -/

/-- A field of exactly this width with two spaces or more at its end. -/
structure Fills (width : Nat) (field : String) : Prop where
  length_eq : field.length = width
  spaces : ∃ front, field = front ++ "  "

/-- If the cell stands in a column, there is room for two spaces behind it. -/
def Cell.HasRoom (cell : Cell) : Prop :=
  ∀ width ∈ cell.column, cell.content.length + 2 ≤ width

theorem Cell.fills {cell : Cell} {width : Nat} (h : cell.HasRoom)
    (hcolumn : width ∈ cell.column) : Fills width cell.written := by
  obtain ⟨content, column⟩ := cell
  obtain rfl : column = some width := hcolumn
  have hroom : content.length + 2 ≤ width := h width rfl
  constructor
  · show (padded width content).length = width
    rw [length_padded]
    omega
  · refine ⟨content ++ String.ofList
      (List.replicate (width - content.length - 2) ' '), ?_⟩
    have hspaces : List.replicate (width - content.length) ' ' =
        List.replicate (width - content.length - 2) ' ' ++ [' ', ' '] := by
      rw [show [' ', ' '] = List.replicate 2 ' ' from rfl,
        List.replicate_append_replicate]
      congr 1
      omega
    show padded width content = _
    rw [padded, hspaces, String.ofList_append, String.append_assoc]

/-- How many characters the cell takes: the width of its column, or its own
length. -/
def Cell.extent (cell : Cell) : Nat :=
  cell.column.getD cell.content.length

theorem Cell.length_written {cell : Cell} (h : cell.HasRoom) :
    cell.written.length = cell.extent := by
  cases hcolumn : cell.column with
  | none => simp [Cell.written, Cell.extent, hcolumn]
  | some width =>
      rw [(Cell.fills h hcolumn).length_eq, Cell.extent, hcolumn]
      rfl

/-! ## Rows -/

/-- The place of the first field behind all columns. -/
def Row.behindColumns (row : Row) : Nat :=
  (row.cells.reverse.dropWhile fun cell => cell.column.isNone).length

/-- What stands before field `place`: the macro, the parenthesis, and the fields
before it with their commas. -/
def Row.opening (row : Row) (place : Nat) : String :=
  row.macroName ++ "(" ++ String.join ((row.fields.take place).map (· ++ ","))

/-- Field `place` starts at this offset from the macro's name. -/
def Row.StartsAt (row : Row) (place offset : Nat) : Prop :=
  (row.opening place).length = offset ∧
    ∃ field rest, row.fields[place]? = some field ∧
      row.text = row.opening place ++ field ++ rest

/-- Fields with commas between them, cut before one of them. -/
theorem intercalate_eq_join_append {fields : List String} {place : Nat}
    {field : String} (h : fields[place]? = some field) :
    ∃ rest, ",".intercalate fields =
      String.join ((fields.take place).map (· ++ ",")) ++ field ++ rest := by
  induction fields generalizing place with
  | nil => simp at h
  | cons head tail ih =>
      cases place with
      | zero =>
          obtain rfl : head = field := by simpa using h
          cases tail with
          | nil => exact ⟨"", by simp⟩
          | cons next more =>
              refine ⟨"," ++ ",".intercalate (next :: more), ?_⟩
              simp [String.intercalate_cons_cons, String.append_assoc]
      | succ place =>
          have htail : tail[place]? = some field := by simpa using h
          obtain ⟨rest, hrest⟩ := ih htail
          cases tail with
          | nil => simp at htail
          | cons next more =>
              refine ⟨rest, ?_⟩
              rw [String.intercalate_cons_cons, hrest]
              simp [String.append_assoc]

theorem Row.startsAt_length_opening {row : Row} {place : Nat}
    (h : place < row.cells.length) :
    row.StartsAt place (row.opening place).length := by
  have hplace : place < row.fields.length := by
    rw [Row.fields, List.length_map]
    exact h
  have hfield := List.getElem?_eq_getElem hplace
  obtain ⟨rest, hrest⟩ := intercalate_eq_join_append hfield
  refine ⟨rfl, _, rest ++ ")", hfield, ?_⟩
  rw [Row.text, invocation, hrest, Row.opening]
  simp only [String.append_assoc]

/-- Where a field starts depends only on the lengths of the fields before it. -/
theorem Row.length_opening_eq {row row' : Row} {place : Nat}
    (hname : row.macroName = row'.macroName)
    (hlengths : (row.fields.take place).map String.length =
      (row'.fields.take place).map String.length) :
    (row.opening place).length = (row'.opening place).length := by
  have hsum : ∀ fields : List String,
      (String.join (fields.map (· ++ ","))).length =
        ((fields.map String.length).map (· + 1)).sum := by
    intro fields
    have hcomma : (",":String).length = 1 := by decide
    simp [Function.comp_def, hcomma]
  simp only [Row.opening, String.length_append, hsum, hlengths, hname]

/-- What the cells of a row take. -/
def Row.extents (row : Row) : List Nat :=
  row.cells.map Cell.extent

theorem Row.map_length_fields {row : Row} (h : ∀ cell ∈ row.cells, cell.HasRoom) :
    row.fields.map String.length = row.extents := by
  rw [Row.fields, Row.extents, List.map_map]
  exact List.map_congr_left fun cell hcell => Cell.length_written (h cell hcell)

/-! ## Lines of a section -/

/-- The lines of records are those of rows whose columns line up. -/
structure LinesUp {α : Type} (line : α → Option Line) (row : α → Row)
    (records : List α) : Prop where
  line_eq : ∀ record ∈ records, line record = some (endLine (row record).text)
  /-- A field in a column fills it. -/
  fills : ∀ record ∈ records, ∀ cell ∈ (row record).cells,
    ∀ width ∈ cell.column, Fills width cell.written
  /-- Up to the first one behind the columns, a field starts at the same offset
  in any two lines. -/
  starts : ∀ record ∈ records, ∀ record' ∈ records,
    ∀ place ≤ (row record).behindColumns, ∃ offset,
      (row record).StartsAt place offset ∧ (row record').StartsAt place offset

section LinesUp

variable {α : Type} {line : α → Option Line} {row : α → Row} {records : List α}

/-- Lines line up if every cell has room in its column, and the cells before the
end of the columns take the same in all rows. -/
theorem LinesUp.of_extents (macroName : String) (front : List Nat)
    (hline : ∀ record ∈ records, (line record).isSome)
    (hrow : ∀ record, line record = (row record).line)
    (hname : ∀ record, (row record).macroName = macroName)
    (hroom : ∀ record ∈ records, ∀ cell ∈ (row record).cells, cell.HasRoom)
    (hfront : ∀ record, (row record).extents.take front.length = front)
    (hbehind : ∀ record, (row record).behindColumns = front.length)
    (hlength : ∀ record, front.length < (row record).cells.length) :
    LinesUp line row records where
  line_eq := by
    intro record hrecord
    obtain ⟨written, hwritten⟩ := Option.isSome_iff_exists.1 (hline record hrecord)
    have hsome := hwritten
    rw [hrow, Row.line_eq_some_iff] at hsome
    rw [hwritten, hsome.2]
  fills := by
    intro record hrecord cell hcell width hwidth
    exact Cell.fills (hroom record hrecord cell hcell) hwidth
  starts := by
    intro record hrecord record' hrecord' place hplace
    rw [hbehind record] at hplace
    have starts :
        ∀ other, (row other).StartsAt place ((row other).opening place).length :=
      fun other =>
        Row.startsAt_length_opening (Nat.lt_of_le_of_lt hplace (hlength other))
    have extents : ∀ other ∈ records,
        ((row other).fields.take place).map String.length = front.take place := by
      intro other hother
      have hall := Row.map_length_fields (hroom other hother)
      rw [List.map_take, hall, ← hfront other, List.take_take, Nat.min_eq_left hplace]
    have hopening : ((row record).opening place).length =
        ((row record').opening place).length :=
      Row.length_opening_eq ((hname record).trans (hname record').symm)
        ((extents record hrecord).trans (extents record' hrecord').symm)
    exact ⟨_, starts record, hopening ▸ starts record'⟩

end LinesUp

/-! ## Products -/

theorem isSome_render_iff {lines : Lines} :
    (render lines).isSome ↔ areLaidOut lines = true := by
  unfold render
  split <;> simp [*]

theorem render_of_areLaidOut {lines : Lines} (h : areLaidOut lines = true) :
    render lines = some (textOf lines) := by
  rw [render.eq_def, if_pos h]

section Product

variable {tables : ProductTables} (h : (render (productLines tables)).isSome)

include h

/-- If a product can be laid out, so can each of its lines. -/
theorem isSome_of_mem_productLines {line : Option Line}
    (hline : line ∈ productLines tables) : line.isSome := by
  have hall := isSome_render_iff.1 h
  exact List.all_eq_true.1 hall line hline

theorem events_lineUp :
    LinesUp (eventLine tables.product (Widths.measure tables).events)
      (eventRow tables.product (Widths.measure tables).events) tables.events := by
  let width := (Widths.measure tables).events.name
  refine LinesUp.of_extents "WPERF_TS_EVENTS"
    [(quote tables.product).length, width, 6, width]
    ?_ (eventLine_eq_line _ _) (fun _ => rfl) ?_ ?_ ?_ ?_
  · intro event hevent
    exact isSome_of_mem_productLines h (eventLine_mem_productLines hevent)
  · intro event hevent
    have hupper : event.upperName.length + 2 ≤ width :=
      length_add_two_le (List.mem_flatMap.2 ⟨event, hevent, by simp⟩)
    have hlower : (quote event.lowerName).length + 2 ≤ width :=
      length_quote_add_two_le (List.mem_flatMap.2 ⟨event, hevent, by simp⟩)
    simpa [eventRow, Cell.HasRoom, Cell.quoted] using ⟨hupper, hlower⟩
  · intro event
    simp [Row.extents, Cell.extent, eventRow, Cell.quoted, length_hex4, width]
  · intro event
    simp [Row.behindColumns, eventRow, Cell.quoted]
  · intro event
    simp [eventRow]

theorem metrics_lineUp :
    LinesUp (metricLine tables.product (Widths.measure tables).metrics)
      (metricRow tables.product (Widths.measure tables).metrics) tables.metrics := by
  let widths := (Widths.measure tables).metrics
  refine LinesUp.of_extents "WPERF_TS_METRICS"
    [(quote tables.product).length, widths.name, widths.events, widths.source,
      widths.compiled, widths.units]
    ?_ (metricLine_eq_line _ _) (fun _ => rfl) ?_ ?_ ?_ ?_
  · intro metric hmetric
    exact isSome_of_mem_productLines h (metricLine_mem_productLines hmetric)
  · intro metric hmetric
    have hcolumn : ∀ text : Metric → String,
        (quote (text metric)).length + 2 ≤ columnWidth (tables.metrics.map text) :=
      fun text => length_quote_add_two_le (List.mem_map_of_mem hmetric)
    simpa [metricRow, Cell.HasRoom, Cell.quoted] using
      ⟨hcolumn Metric.name, hcolumn Metric.eventsColumn, hcolumn Metric.sourceColumn,
        hcolumn Metric.compiledColumn, hcolumn Metric.units⟩
  · intro metric
    simp [Row.extents, Cell.extent, metricRow, Cell.quoted, widths]
  · intro metric
    simp [Row.behindColumns, metricRow, Cell.quoted]
  · intro metric
    simp [metricRow]

theorem groups_lineUp :
    LinesUp (groupLine tables.product (Widths.measure tables).groups)
      (groupRow tables.product (Widths.measure tables).groups) tables.groups := by
  let widths := (Widths.measure tables).groups
  refine LinesUp.of_extents "WPERF_TS_GROUPS_METRICS"
    [(quote tables.product).length, widths.name, widths.members]
    ?_ (groupLine_eq_line _ _) (fun _ => rfl) ?_ ?_ ?_ ?_
  · intro group hgroup
    exact isSome_of_mem_productLines h (groupLine_mem_productLines hgroup)
  · intro group hgroup
    have hcolumn : ∀ text : MetricGroup → String,
        (quote (text group)).length + 2 ≤ columnWidth (tables.groups.map text) :=
      fun text => length_quote_add_two_le (List.mem_map_of_mem hgroup)
    simpa [groupRow, Cell.HasRoom, Cell.quoted] using
      ⟨hcolumn MetricGroup.name, hcolumn MetricGroup.membersColumn⟩
  · intro group
    simp [Row.extents, Cell.extent, groupRow, Cell.quoted, widths]
  · intro group
    simp [Row.behindColumns, groupRow, Cell.quoted]
  · intro group
    simp [groupRow]

end Product

/-- **Columns line up.** If the product of a document can be laid out, the lines
of its events, metrics and groups are those of their rows, with the columns as
measured: fields in columns fill them, and up to the first field behind the
columns all lines of a section agree where a field starts. -/
theorem columns_line_up {product : String} {document : Json.Fields}
    (h : (render (productLines (readProduct product document).tables)).isSome) :
    let tables := (readProduct product document).tables
    let widths := Widths.measure tables
    LinesUp (eventLine product widths.events) (eventRow product widths.events)
        tables.events ∧
      LinesUp (metricLine product widths.metrics) (metricRow product widths.metrics)
        tables.metrics ∧
      LinesUp (groupLine product widths.groups) (groupRow product widths.groups)
        tables.groups :=
  ⟨events_lineUp h, metrics_lineUp h, groups_lineUp h⟩

/-- A product whose names change their length with their case, or hold what is
escaped. -/
def unevenDocument : Json.Fields :=
  [("events", .object
      [("straße", .object [("code", .string "0x11")]),
        ("a\"b", .object [("code", .number (.integer 3))])]),
    ("metrics", .object [("µ\\", .object [("formula", .string "A")])]),
    ("groups", .object
      [("metrics", .object [("g\n", .object []), ("all", .object [])])])]

theorem unevenDocument_lines_up :
    (render (productLines (readProduct "n1" unevenDocument).tables)).isSome ∧
    let tables := (readProduct "n1" unevenDocument).tables
    let widths := Widths.measure tables
    LinesUp (eventLine "n1" widths.events) (eventRow "n1" widths.events)
        tables.events ∧
      LinesUp (metricLine "n1" widths.metrics) (metricRow "n1" widths.metrics)
        tables.metrics ∧
      LinesUp (groupLine "n1" widths.groups) (groupRow "n1" widths.groups)
        tables.groups := by
  have hcompile : compile "A" = .ok ⟨[.operand "a"]⟩ := by cbv
  have hbuild : Document.buildMetric "µ\\" [("formula", .string "A")] =
      .ok ⟨"µ\\", "A", _, [], "", "", hcompile⟩ := by
    show (Metric.make "µ\\" "A" [] "" "").mapError _ = _
    rw [Metric.make_of_compile hcompile]
    rfl
  have hmetrics : (readProduct "n1" unevenDocument).tables.metrics =
      [⟨"µ\\", "A", _, [], "", "", hcompile⟩] := by
    show Document.kept (Document.readEntry Document.buildMetric)
      [("µ\\", .object [("formula", .string "A")])] = _
    simp [Document.kept, Document.readEntry, Document.asObject, hbuild,
      Except.bind, Except.toOption]
  have hrendered :
      (render (productLines (readProduct "n1" unevenDocument).tables)).isSome := by
    rw [isSome_render_iff]
    unfold productLines Widths.measure
    rw [hmetrics]
    cbv
  exact ⟨hrendered, columns_line_up hrendered⟩

end CounterTables.Layout
