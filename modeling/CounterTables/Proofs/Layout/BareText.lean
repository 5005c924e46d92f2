import Mathlib
import CounterTables.Proofs.Layout.Arguments
import CounterTables.Proofs.Layout.ProductLines
import CounterTables.Proofs.Layout.QuotedLines

/-!
# Bare text in tables

Most texts of a product stand between quotes, where nothing can end a field or a
line. Three kinds do not: the upper-case names of events, the values of the
configuration that begin with a digit, and the keys in the comment above the
configuration. They are written as the document has them. So each record has one
line with its own number of fields just if all bare texts are free of line ends,
and can stand between commas.

## Main results

* `Row.argumentsOf_text_iff` — a row has all its fields just if what is in its
  cells can stand between commas.
* `tabular_iff_plain` — a product is written as a table just if its bare texts
  are plain.
* `splitNames_not_tabular` — two events, neither of which has its line.
-/

namespace CounterTables.Layout

open CounterTables.Document (readProduct)
open CounterTables.Text (pieces)

/-! ## Columns -/

/-- The names of columns in a comment. -/
def columnsOf (line : String) : Option (List String) :=
  ("// ".toList.isPrefixOf? line.toList).map fun names =>
    (pieces (· == ',') names).map String.ofList

/-- A comment names the columns it was made of just if none holds a comma. -/
theorem columnsOf_comment_iff {names : List String} (hne : names ≠ []) :
    columnsOf ("// " ++ ",".intercalate names) = some names ↔
      ∀ name ∈ names, ',' ∉ name.toList := by
  have htext : ("// " ++ ",".intercalate names).toList =
      "// ".toList ++ [','].intercalate (names.map String.toList) := by
    simp [String.toList_intercalate]
  have hnames : names.map String.toList ≠ [] := by simpa using hne
  have hiff : pieces (· == ',') ([','].intercalate (names.map String.toList)) =
      names.map String.toList ↔ ∀ piece ∈ names.map String.toList, ',' ∉ piece :=
    pieces_intercalate_iff hnames
  rw [List.forall_mem_map] at hiff
  rw [← hiff, columnsOf, htext, isPrefixOf?_append, Option.map_some, Option.some.injEq,
    map_ofList_eq_iff]

/-! ## Plain cells -/

/-- The text may stand bare in a line: it holds no line end and is a field. -/
def IsPlain (text : String) : Prop :=
  '\n' ∉ text.toList ∧ IsField text

instance (text : String) : Decidable (IsPlain text) :=
  inferInstanceAs (Decidable (_ ∧ _))

theorem isPlain_quote (text : String) : IsPlain (quote text) :=
  ⟨lineFeed_not_mem_quote text, isField_quote text⟩

theorem isPlain_hex4 (code : EventCode) : IsPlain code.hex4 :=
  ⟨fun hmem => absurd (isAlphanum_of_mem_hex4 hmem) (by decide), isField_hex4 code⟩

theorem Cell.isField_written_iff {cell : Cell} :
    IsField cell.written ↔ IsField cell.content := by
  obtain ⟨content, _ | width⟩ := cell
  · rfl
  · exact isField_padded_iff

/-! ## Rows -/

/-- A row has the fields it was written with just if all its cells are
fields. -/
theorem Row.argumentsOf_text_iff {row : Row} (hne : row.cells ≠ []) :
    argumentsOf row.macroName row.text = some row.fields ↔
      ∀ cell ∈ row.cells, IsField cell.content := by
  have hfields : row.fields ≠ [] := by simpa [Row.fields] using hne
  rw [Row.text, argumentsOf_invocation_iff hfields, Row.fields, List.forall_mem_map]
  simp only [Cell.isField_written_iff]

/-! ## The configuration -/

/-- The value stands bare, because it begins with a digit. -/
def isBare (value : Scalar) : Bool :=
  value.toText.toList.head?.any Char.isDigit

theorem configField_eq (value : Scalar) :
    configField value = if isBare value then value.toText else quote value.toText := by
  unfold configField isBare
  cases htext : value.toText.toList with
  | nil => simp [htext]
  | cons first rest =>
      simp only [htext, List.head?_cons, Option.any_some]
      rfl

theorem isPlain_configField_iff {value : Scalar} :
    IsPlain (configField value) ↔ (isBare value = true → IsPlain value.toText) := by
  rw [configField_eq]
  cases isBare value with
  | false => simp [isPlain_quote]
  | true => simp

/-! ## Plain tables -/

/-- All texts that stand bare in the tables are plain, and no key names two
columns. -/
structure Plain (tables : ProductTables) : Prop where
  names : ∀ event ∈ tables.events, IsPlain event.upperName
  values : ∀ config ∈ tables.config, ∀ entry ∈ config.attributes,
    isBare entry.2 = true → IsPlain entry.2.toText
  keys : ∀ config ∈ tables.config, ∀ key ∈ config.keys,
    '\n' ∉ key.toList ∧ ',' ∉ key.toList

/-- The text is a table of the records. -/
structure Tabular (tables : ProductTables) (text : String) : Prop where
  /-- Each record has one line, as has the comment above the configuration. -/
  lines_eq : linesOf text = productTexts tables
  /-- The line of an event has six fields. -/
  events : ∀ event ∈ tables.events,
    let row := eventRow tables.product (Widths.measure tables).events event
    argumentsOf "WPERF_TS_EVENTS" row.text = some row.fields ∧ row.fields.length = 6
  /-- The line of the configuration has a field for the product and one for each
  attribute. -/
  configuration : ∀ config ∈ tables.config,
    let row := configRow config
    argumentsOf "WPERF_TS_PRODUCT_CONFIGURATION" row.text = some row.fields ∧
      row.fields.length = config.attributes.length + 1
  /-- The comment above it names as many columns. -/
  columns : ∀ config ∈ tables.config,
    columnsOf (columnComment config) = some ("name" :: config.keys)

theorem lineFeed_not_mem_sectionTexts_iff {title product : String} {texts : List String}
    (htitle : '\n' ∉ title.toList) (hproduct : '\n' ∉ product.toList) :
    (∀ text ∈ sectionTexts title product texts, '\n' ∉ text.toList) ↔
      ∀ text ∈ texts, '\n' ∉ text.toList := by
  have hcomment : '\n' ∉ ("// " ++ (title ++ " for: " ++ product)).toList := by
    simp [htitle, hproduct]
  have hempty : '\n' ∉ "".toList := by decide
  rw [sectionTexts, List.cons_append, List.forall_mem_cons, List.forall_mem_append,
    List.forall_mem_singleton, and_iff_right hcomment, and_iff_left hempty]

/-- Only the upper-case name of an event stands bare in its line. -/
theorem lineFeed_mem_eventRow_iff {product : String} {widths : EventWidths}
    {event : Event} :
    '\n' ∈ (eventRow product widths event).text.toList ↔
      '\n' ∈ event.upperName.toList := by
  have hname : '\n' ∉ (eventRow product widths event).macroName.toList := by
    show '\n' ∉ "WPERF_TS_EVENTS".toList
    decide
  rw [Row.lineFeed_mem_text_iff hname]
  simp [eventRow, Cell.quoted, (isPlain_quote _).1, (isPlain_hex4 _).1]

theorem lineFeed_mem_configRow_iff {config : Configuration} :
    '\n' ∈ (configRow config).text.toList ↔
      ∃ entry ∈ config.attributes, '\n' ∈ (configField entry.2).toList := by
  have hname : '\n' ∉ (configRow config).macroName.toList := by
    show '\n' ∉ "WPERF_TS_PRODUCT_CONFIGURATION".toList
    decide
  rw [Row.lineFeed_mem_text_iff hname]
  simp [configRow, Cell.quoted, (isPlain_quote _).1]

theorem lineFeed_mem_columnComment_iff {config : Configuration} :
    '\n' ∈ (columnComment config).toList ↔ ∃ key ∈ config.keys, '\n' ∈ key.toList := by
  have htext : (columnComment config).toList = "// ".toList ++
      [','].intercalate (("name" :: config.keys).map String.toList) := by
    simp [columnComment, String.toList_intercalate]
  rw [htext, List.mem_append, mem_intercalate_iff (by decide)]
  simp

theorem lineFeed_not_mem_metricRow (product : String) (widths : MetricWidths)
    (metric : Metric) :
    '\n' ∉ (metricRow product widths metric).text.toList :=
  Row.lineFeed_not_mem_text (QuotedRecord.shows_row product (.ofMetric widths metric))
    (QuotedRecord.ofMetric widths metric).not_mem_macroName.2

theorem lineFeed_not_mem_groupRow (product : String) (widths : GroupWidths)
    (group : MetricGroup) : '\n' ∉ (groupRow product widths group).text.toList :=
  Row.lineFeed_not_mem_text (QuotedRecord.shows_row product (.ofGroup widths group))
    (QuotedRecord.ofGroup widths group).not_mem_macroName.2

theorem argumentsOf_eventRow_iff {product : String} {widths : EventWidths}
    {event : Event} :
    argumentsOf "WPERF_TS_EVENTS" (eventRow product widths event).text =
        some (eventRow product widths event).fields ↔ IsField event.upperName := by
  have hne : (eventRow product widths event).cells ≠ [] := List.cons_ne_nil _ _
  have hname : (eventRow product widths event).macroName = "WPERF_TS_EVENTS" := rfl
  rw [← hname, Row.argumentsOf_text_iff hne]
  simp [eventRow, Cell.quoted, isField_quote, isField_hex4]

theorem argumentsOf_configRow_iff {config : Configuration} :
    argumentsOf "WPERF_TS_PRODUCT_CONFIGURATION" (configRow config).text =
        some (configRow config).fields ↔
      ∀ entry ∈ config.attributes, IsField (configField entry.2) := by
  have hne : (configRow config).cells ≠ [] := List.cons_ne_nil _ _
  have hname : (configRow config).macroName = "WPERF_TS_PRODUCT_CONFIGURATION" := rfl
  have hproduct : IsField (Cell.quoted config.product none).content :=
    isField_quote config.product
  rw [← hname, Row.argumentsOf_text_iff hne, configRow, List.forall_mem_cons,
    List.forall_mem_map, and_iff_right hproduct]

theorem columnsOf_columnComment_iff {config : Configuration} :
    columnsOf (columnComment config) = some ("name" :: config.keys) ↔
      ∀ key ∈ config.keys, ',' ∉ key.toList := by
  have hname : ',' ∉ "name".toList := by decide
  rw [columnComment, columnsOf_comment_iff (List.cons_ne_nil _ _), List.forall_mem_cons,
    and_iff_right hname]

section Product

variable {tables : ProductTables} (hproduct : '\n' ∉ tables.product.toList)

include hproduct

/-- The lines of a product hold line ends only where bare texts do. -/
theorem lineFeed_not_mem_productTexts_iff :
    (∀ text ∈ productTexts tables, '\n' ∉ text.toList) ↔
      (∀ event ∈ tables.events, '\n' ∉ event.upperName.toList) ∧
      ∀ config ∈ tables.config, (∀ key ∈ config.keys, '\n' ∉ key.toList) ∧
        ∀ entry ∈ config.attributes, '\n' ∉ (configField entry.2).toList := by
  have hconfig : (∀ text ∈ tables.config.elim [] fun config =>
      [columnComment config, (configRow config).text], '\n' ∉ text.toList) ↔
        ∀ config ∈ tables.config, (∀ key ∈ config.keys, '\n' ∉ key.toList) ∧
          ∀ entry ∈ config.attributes, '\n' ∉ (configField entry.2).toList := by
    cases tables.config with
    | none => simp
    | some config =>
        simp [lineFeed_mem_columnComment_iff, lineFeed_mem_configRow_iff]
  rw [productTexts]
  simp only [List.forall_mem_append]
  rw [lineFeed_not_mem_sectionTexts_iff (by decide) hproduct,
    lineFeed_not_mem_sectionTexts_iff (by decide) hproduct,
    lineFeed_not_mem_sectionTexts_iff (by decide) hproduct,
    lineFeed_not_mem_sectionTexts_iff (by decide) hproduct, hconfig]
  simp only [List.forall_mem_map, lineFeed_mem_eventRow_iff, lineFeed_not_mem_metricRow,
    lineFeed_not_mem_groupRow, not_false_eq_true, implies_true, and_true]
  exact and_comm

theorem tabular_iff_of_render {text : String}
    (h : render (productLines tables) = some text) :
    Tabular tables text ↔ Plain tables := by
  have hlines : linesOf text = productTexts tables ↔
      ∀ row ∈ productTexts tables, '\n' ∉ row.toList := by
    rw [render_productLines_eq h]
    exact linesOf_join_iff
  rw [lineFeed_not_mem_productTexts_iff hproduct] at hlines
  constructor
  · intro htabular
    obtain ⟨hnames, hrest⟩ := hlines.1 htabular.lines_eq
    refine ⟨?_, ?_, ?_⟩
    · intro event hmem
      exact ⟨hnames event hmem,
        argumentsOf_eventRow_iff.1 (htabular.events event hmem).1⟩
    · intro config hmem entry hentry
      refine isPlain_configField_iff.1 ⟨(hrest config hmem).2 entry hentry, ?_⟩
      exact argumentsOf_configRow_iff.1 (htabular.configuration config hmem).1
        entry hentry
    · intro config hmem key hkey
      exact ⟨(hrest config hmem).1 key hkey,
        columnsOf_columnComment_iff.1 (htabular.columns config hmem) key hkey⟩
  · intro hplain
    have hvalues : ∀ config ∈ tables.config, ∀ entry ∈ config.attributes,
        IsPlain (configField entry.2) := by
      intro config hmem entry hentry
      exact isPlain_configField_iff.2 (hplain.values config hmem entry hentry)
    refine ⟨hlines.2 ⟨?_, ?_⟩, ?_, ?_, ?_⟩
    · intro event hmem
      exact (hplain.names event hmem).1
    · intro config hmem
      exact ⟨fun key hkey => (hplain.keys config hmem key hkey).1,
        fun entry hentry => (hvalues config hmem entry hentry).1⟩
    · intro event hmem
      exact ⟨argumentsOf_eventRow_iff.2 (hplain.names event hmem).2, rfl⟩
    · intro config hmem
      refine ⟨argumentsOf_configRow_iff.2 fun entry hentry =>
        (hvalues config hmem entry hentry).2, ?_⟩
      simp [configRow, Row.fields]
    · intro config hmem
      exact columnsOf_columnComment_iff.2 fun key hkey =>
        (hplain.keys config hmem key hkey).2

end Product

/-- **A product is written as a table just if its bare texts are plain.** If the
lines of a product whose name holds no line end can be laid out, each of its
events and its configuration have one line with all their fields, and the
comment above the configuration names its columns, just if the upper-case names
of the events, the values that begin with a digit, and the keys are plain. What
a document holds elsewhere makes no difference. -/
theorem tabular_iff_plain {product : String} {document : Json.Fields} {text : String}
    (hproduct : '\n' ∉ product.toList)
    (h : render (productLines (readProduct product document).tables) = some text) :
    Tabular (readProduct product document).tables text ↔
      Plain (readProduct product document).tables :=
  tabular_iff_of_render hproduct h

/-! ## Names that are plain, and names that are not -/

/-- A product with a configuration and an event. A value and a title hold what
would end a field or a line, but neither stands bare. -/
def plainDocument : Json.Fields :=
  [("product_configuration",
      .object [("cores", .string "4"), ("vendor", .string "A,\nB")]),
    ("events", .object
      [("cycles", .object [("code", .string "0x11"), ("title", .string "\",\n")])])]

theorem plainDocument_tabular :
    ∃ text, '\n' ∉ "n1".toList ∧
      render (productLines (readProduct "n1" plainDocument).tables) = some text ∧
      Tabular (readProduct "n1" plainDocument).tables text := by
  let config : Configuration :=
    ⟨"n1", [("cores", .text "4"), ("vendor", .text "A,\nB")]⟩
  let event : Event := ⟨"cycles", ⟨17, by decide⟩, "\",\n", ""⟩
  have htables : (readProduct "n1" plainDocument).tables =
      ⟨"n1", some config, [event], [], []⟩ := by
    cbv
  have hplain : Plain (readProduct "n1" plainDocument).tables := by
    rw [htables]
    have hname : event.upperName = "CYCLES" := by cbv
    refine ⟨?_, ?_, ?_⟩
    · intro other hother
      obtain rfl := List.mem_singleton.1 hother
      rw [hname]
      decide
    · intro other hother entry hentry
      obtain rfl : config = other := Option.some.inj hother
      rcases List.mem_pair.1 hentry with rfl | rfl <;> decide
    · intro other hother key hkey
      obtain rfl : config = other := Option.some.inj hother
      rcases List.mem_pair.1 hkey with rfl | rfl <;> decide
  have hproduct : '\n' ∉ "n1".toList := by decide
  have hsome :
      (render (productLines
        (readProduct "n1" plainDocument).tables)).isSome = true := by
    cbv
  obtain ⟨text, htext⟩ := Option.isSome_iff_exists.1 hsome
  exact ⟨text, hproduct, htext, (tabular_iff_plain hproduct htext).2 hplain⟩

/-- Two events, one with a line end in its name and one with a comma. -/
def splitNames : Json.Fields :=
  [("events", .object [("a\nb", .object [("code", .string "1")]),
    ("c,d", .object [("code", .string "2")])])]

/-- Both events are written, but no line has the six fields of an event: one is
on two lines, and the other has seven fields. -/
theorem splitNames_not_tabular :
    '\n' ∉ "n1".toList ∧ (readProduct "n1" splitNames).tables.events.length = 2 ∧
    ∃ text, render (productLines (readProduct "n1" splitNames).tables) = some text ∧
      ∀ line ∈ linesOf text, ∀ arguments,
        argumentsOf "WPERF_TS_EVENTS" line = some arguments → arguments.length ≠ 6 := by
  have htexts : productTexts (readProduct "n1" splitNames).tables =
      ["// Product configuration for: n1", "", "// Events for: n1",
        "WPERF_TS_EVENTS(\"n1\",A\nB     ,0x0001,\"a\\nb\"  ,\"\",\"\")",
        "WPERF_TS_EVENTS(\"n1\",C,D     ,0x0002,\"c,d\"   ,\"\",\"\")", "",
        "// Metrics for: n1", "", "// Metric Groups for: n1", ""] := by
    cbv
  have hevents : (readProduct "n1" splitNames).tables.events.length = 2 := by cbv
  have hsome :
      (render (productLines
        (readProduct "n1" splitNames).tables)).isSome = true := by
    cbv
  obtain ⟨text, htext⟩ := Option.isSome_iff_exists.1 hsome
  have hlines : linesOf text =
      ["// Product configuration for: n1", "", "// Events for: n1",
        "WPERF_TS_EVENTS(\"n1\",A", "B     ,0x0001,\"a\\nb\"  ,\"\",\"\")",
        "WPERF_TS_EVENTS(\"n1\",C,D     ,0x0002,\"c,d\"   ,\"\",\"\")", "",
        "// Metrics for: n1", "", "// Metric Groups for: n1", ""] := by
    rw [render_productLines_eq htext, htexts, linesOf_join]
    cbv
  -- how many fields each line has, if it is the line of an event at all
  have hcounts : (linesOf text).map (fun line =>
      (argumentsOf "WPERF_TS_EVENTS" line).map List.length) =
        [none, none, none, none, none, some 7, none, none, none, none, none] := by
    rw [hlines]
    decide +kernel
  refine ⟨by decide, hevents, text, htext, ?_⟩
  intro line hline arguments harguments hlength
  have hsix : some 6 ∈ (linesOf text).map (fun line =>
      (argumentsOf "WPERF_TS_EVENTS" line).map List.length) := by
    refine List.mem_map.2 ⟨line, hline, ?_⟩
    rw [harguments, Option.map_some, hlength]
  rw [hcounts] at hsix
  exact absurd hsix (by decide)

end CounterTables.Layout
