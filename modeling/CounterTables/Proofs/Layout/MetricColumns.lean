import CounterTables.Proofs.Formula.Sentences
import CounterTables.Proofs.Layout.Fields
import CounterTables.Document.Product
import CounterTables.Layout.Table

/-!
# The formula columns of a metric

A metric's line holds the source of its formula in lower case, and the text of
its compiled form. Lower case is that of all letters, and both columns are
escaped, while the compiler changes only the ASCII letters of operands. The
columns agree all the same: a source with a character outside ASCII has no
compiled form, so no metric has it.

## Main results

* `compile_lowerText` — a formula in lower case compiles to the same form.
* `metric_columns_agree` — what is read from the source column compiles to what
  is read from the compiled column.
-/

namespace CounterTables.Layout

open CounterTables.Document (readProduct)
open CounterTables.Formula (Postfix compile compile_eq_ok_iff
  tokenize_lowerText)
open CounterTables.Text (lowerText)

/-- A formula in lower case compiles to the same form. -/
theorem compile_lowerText {source : String} {formula : Postfix}
    (h : compile source = .ok formula) :
    compile (lowerText source) = .ok formula := by
  obtain ⟨tokens, tree, htokens, hderives, hitems⟩ := compile_eq_ok_iff.1 h
  have hlower := tokenize_lowerText htokens
  exact compile_eq_ok_iff.2 ⟨tokens, tree, hlower, hderives, hitems⟩

/-- The source column of a metric compiles to its compiled column. -/
theorem compile_sourceColumn (metric : Metric) :
    ∃ formula, compile metric.sourceColumn = .ok formula ∧
      formula.text = metric.compiledColumn :=
  ⟨metric.compiled, compile_lowerText metric.compile_source, rfl⟩

/-- **The formula columns of a metric agree.** Whatever the document, the line
of each of its metrics is among the lines of the product, and its fields can be
read back; the text in the source column compiles, and the text in the compiled
column is that of the result. -/
theorem metric_columns_agree {product : String} {document : Json.Fields}
    {metric : Metric} {line : Line}
    (hmetric : metric ∈ (readProduct product document).tables.metrics)
    (hline : metricLine product
      (Widths.measure (readProduct product document).tables).metrics metric =
        some line) :
    some line ∈ productLines (readProduct product document).tables ∧
    ∃ source compiled formula,
      readLine "WPERF_TS_METRICS" line =
        some [product, metric.name, metric.eventsColumn, source, compiled,
          metric.units, metric.title] ∧
      compile source = .ok formula ∧ formula.text = compiled := by
  constructor
  · rw [← hline]
    exact metricLine_mem_productLines hmetric
  · obtain ⟨fields, rfl, htexts⟩ := metricLine_eq_some hline
    have hne : fields ≠ [] := by
      rintro rfl
      cases htexts
    obtain ⟨formula, hcompile, htext⟩ := compile_sourceColumn metric
    refine ⟨_, _, formula, ?_, hcompile, htext⟩
    rw [readLine_invocation _ hne, htexts]

/-- A product with one metric, whose formula has capitals and a line end. -/
def ratioDocument : Json.Fields :=
  [("metrics", .object
    [("ratio", .object [("formula", .string "A /\n(B*2)")])])]

theorem ratio_columns_agree :
    ∃ metric line,
      metric ∈ (readProduct "n1" ratioDocument).tables.metrics ∧
      metricLine "n1" (Widths.measure
        (readProduct "n1" ratioDocument).tables).metrics metric = some line ∧
      ∃ source compiled formula,
        readLine "WPERF_TS_METRICS" line =
          some ["n1", metric.name, metric.eventsColumn, source, compiled,
            metric.units, metric.title] ∧
        compile source = .ok formula ∧ formula.text = compiled := by
  have hcompile : compile "A /\n(B*2)" = .ok
      ⟨[.operand "a", .operand "b", .operand "2", .operator .mul,
        .operator .div]⟩ := by cbv
  let metric : Metric := ⟨"ratio", "A /\n(B*2)", _, [], "", "", hcompile⟩
  have hmake : Metric.make "ratio" "A /\n(B*2)" [] "" "" = .ok metric :=
    Metric.make_of_compile hcompile
  have hmetrics : (readProduct "n1" ratioDocument).tables.metrics = [metric] := by
    have hbuild : Document.buildMetric "ratio"
        [("formula", .string "A /\n(B*2)")] = .ok metric := by
      show (Metric.make "ratio" "A /\n(B*2)" [] "" "").mapError _ = _
      rw [hmake]
      rfl
    show Document.kept (Document.readEntry Document.buildMetric)
      [("ratio", .object [("formula", .string "A /\n(B*2)")])] = [metric]
    simp [Document.kept, Document.readEntry, Document.asObject, hbuild,
      Except.bind, Except.toOption]
  obtain ⟨line, hline⟩ : ∃ line, metricLine "n1" (Widths.measure
      (readProduct "n1" ratioDocument).tables).metrics metric = some line := by
    rw [← Option.isSome_iff_exists]
    simp only [Widths.measure, hmetrics]
    cbv
  have hmetric : metric ∈ (readProduct "n1" ratioDocument).tables.metrics := by
    rw [hmetrics]
    exact List.mem_singleton_self metric
  exact ⟨metric, line, hmetric, hline, (metric_columns_agree hmetric hline).2⟩

end CounterTables.Layout
