import Mathlib
import CounterTables.Layout.Reader
import CounterTables.Proofs.Layout.Rows

/-!
# Lines of quoted fields

In the lines of metrics, groups and aliases every field is quoted text with
spaces behind it; only the number of spaces depends on the columns. Such a field
is a `PaddedField`. A reader that knows the macro but no width finds the texts
of all fields again, so whatever holds of what is read holds of the line as it
was written.

## Main results

* `readFields_written` — the texts of a list of padded fields.
* `readLine_invocation` — the texts of the fields of a line.
* `metricLine_eq_some` — the fields of a metric's line.
-/

namespace CounterTables.Layout

/-! ## Fields -/

/-- A text that stands in quotes with spaces behind it. -/
structure PaddedField where
  text : String
  spaces : Nat

def PaddedField.written (field : PaddedField) : String :=
  quote field.text ++ String.ofList (List.replicate field.spaces ' ')

theorem toList_written (field : PaddedField) :
    field.written.toList =
      '"' :: (encode field.text.toList ++
        '"' :: List.replicate field.spaces ' ') := by
  simp [PaddedField.written, quote]

theorem written_quote (text : String) :
    (PaddedField.mk text 0).written = quote text := by
  simp [PaddedField.written]

/-- Fields as they stand between the parentheses of a macro. -/
def written (fields : List PaddedField) : List Char :=
  [','].intercalate (fields.map fun field => field.written.toList)

theorem written_singleton (field : PaddedField) :
    written [field] = field.written.toList :=
  List.intercalate_singleton

theorem written_cons_cons (field next : PaddedField)
    (others : List PaddedField) :
    written (field :: next :: others) =
      field.written.toList ++ ',' :: written (next :: others) := by
  simp [written]

/-- Written fields are longer than their number, with what ends them. -/
theorem length_le_length_written (fields : List PaddedField) :
    fields.length ≤ (written fields).length := by
  induction fields with
  | nil => exact Nat.le_refl _
  | cons field more ih =>
      have hfield : 0 < field.written.toList.length := by
        rw [toList_written]
        exact Nat.succ_pos _
      cases more with
      | nil =>
          rw [written_singleton]
          exact hfield
      | cons next others =>
          rw [written_cons_cons]
          simp only [List.length_append, List.length_cons] at ih ⊢
          omega

/-! ## Reading -/

theorem dropWhile_spaces (spaces : Nat) {c : Char} (hc : c ≠ ' ') (rest : List Char) :
    (List.replicate spaces ' ' ++ c :: rest).dropWhile (· == ' ') = c :: rest := by
  induction spaces with
  | zero => simp [hc]
  | succ spaces ih => simpa [List.replicate_succ] using ih

/-- A field and the comma behind it are read, and then the other fields. -/
theorem readFields_comma (bound : Nat) (field : PaddedField) (rest : List Char) :
    readFields (bound + 1) (field.written.toList ++ ',' :: rest) =
      (readFields bound rest).map fun (fields, rest) =>
        (field.text :: fields, rest) := by
  rw [toList_written, List.cons_append, List.append_assoc, List.cons_append]
  simp only [readFields, readQuoted_encode, Option.bind_some]
  rw [dropWhile_spaces field.spaces (by decide), String.ofList_toList]
  rfl

/-- A field and the closing parenthesis end the list. -/
theorem readFields_close (bound : Nat) (field : PaddedField) (rest : List Char) :
    readFields (bound + 1) (field.written.toList ++ ')' :: rest) =
      some ([field.text], rest) := by
  rw [toList_written, List.cons_append, List.append_assoc, List.cons_append]
  simp only [readFields, readQuoted_encode, Option.bind_some]
  rw [dropWhile_spaces field.spaces (by decide), String.ofList_toList]
  rfl

/-- The texts of fields with commas between them are read back. -/
theorem readFields_written {fields : List PaddedField} (hne : fields ≠ [])
    {bound : Nat} (hbound : fields.length ≤ bound) (rest : List Char) :
    readFields bound (written fields ++ ')' :: rest) =
      some (fields.map PaddedField.text, rest) := by
  induction fields generalizing bound with
  | nil => exact absurd rfl hne
  | cons field more ih =>
      cases bound with
      | zero => cases hbound
      | succ bound =>
          cases more with
          | nil =>
              rw [written_singleton]
              exact readFields_close bound field rest
          | cons next others =>
              have hmore := ih (List.cons_ne_nil next others)
                (Nat.le_of_succ_le_succ hbound)
              rw [written_cons_cons, List.append_assoc, List.cons_append,
                readFields_comma, hmore]
              rfl

/-! ## Lines -/

/-- The texts of the fields of a line that consists of the macro `name`, its
fields and a line end. -/
def readLine (name : String) (line : Line) : Option (List String) :=
  let text := (String.join line).toList
  ((name ++ "(").toList.isPrefixOf? text).bind fun rest =>
    match readFields text.length rest with
    | some (fields, ['\n']) => some fields
    | _ => none

theorem isPrefixOf?_append (opening rest : List Char) :
    opening.isPrefixOf? (opening ++ rest) = some rest := by
  induction opening with
  | nil => rfl
  | cons c opening ih => simp [List.isPrefixOf?, ih]

theorem toList_join_invocation (name : String) (fields : List PaddedField) :
    (String.join
        (endLine (invocation name (fields.map PaddedField.written)))).toList =
      (name ++ "(").toList ++ (written fields ++ ')' :: ['\n']) := by
  simp [endLine, invocation, written, Function.comp_def]

/-- The texts of the fields of an invocation are read back from its line. -/
theorem readLine_invocation (name : String) {fields : List PaddedField}
    (hne : fields ≠ []) :
    readLine name (endLine (invocation name (fields.map PaddedField.written))) =
      some (fields.map PaddedField.text) := by
  have hbound : fields.length ≤
      ((name ++ "(").toList ++ (written fields ++ ')' :: ['\n'])).length := by
    have hle := length_le_length_written fields
    rw [List.length_append, List.length_append]
    omega
  simp only [readLine, toList_join_invocation, isPrefixOf?_append,
    Option.bind_some]
  rw [readFields_written hne hbound]
  rfl

/-! ## Rows of quoted cells -/

/-- The cells of the row are these texts, quoted. -/
def Row.Shows (row : Row) (texts : List String) : Prop :=
  List.Forall₂ (fun cell text => ∃ column, cell = Cell.quoted text column)
    row.cells texts

/-- A quoted cell is a padded field, in a column or not. -/
theorem written_quoted (text : String) (column : Option Nat) :
    ∃ spaces, (Cell.quoted text column).written =
      (PaddedField.mk text spaces).written := by
  cases column with
  | none => exact ⟨0, (written_quote text).symm⟩
  | some width => exact ⟨width - (quote text).length, rfl⟩

theorem Row.Shows.paddedFields {row : Row} {texts : List String}
    (h : row.Shows texts) :
    ∃ fields : List PaddedField, row.fields = fields.map PaddedField.written ∧
      fields.map PaddedField.text = texts := by
  unfold Row.Shows at h
  unfold Row.fields
  generalize row.cells = cells at h ⊢
  induction h with
  | nil => exact ⟨[], rfl, rfl⟩
  | @cons cell text cells texts hcell hcells ih =>
      obtain ⟨column, rfl⟩ := hcell
      obtain ⟨spaces, hwritten⟩ := written_quoted text column
      obtain ⟨fields, hfields, htexts⟩ := ih
      refine ⟨⟨text, spaces⟩ :: fields, ?_, ?_⟩
      · rw [List.map_cons, List.map_cons, hwritten, hfields]
      · rw [List.map_cons, htexts]

/-- The line of a metric is an invocation of quoted fields. -/
theorem metricLine_eq_some {product : String} {widths : MetricWidths}
    {metric : Metric} {line : Line}
    (h : metricLine product widths metric = some line) :
    ∃ fields : List PaddedField, line = endLine (invocation "WPERF_TS_METRICS"
        (fields.map PaddedField.written)) ∧
      fields.map PaddedField.text =
        [product, metric.name, metric.eventsColumn, metric.sourceColumn,
          metric.compiledColumn, metric.units, metric.title] := by
  rw [metricLine_eq_line, Row.line_eq_some_iff] at h
  obtain ⟨-, rfl⟩ := h
  have hshows : (metricRow product widths metric).Shows
      [product, metric.name, metric.eventsColumn, metric.sourceColumn,
        metric.compiledColumn, metric.units, metric.title] := by
    simp [Row.Shows, metricRow, Cell.quoted]
  obtain ⟨fields, hfields, htexts⟩ := hshows.paddedFields
  refine ⟨fields, ?_, htexts⟩
  rw [Row.text, hfields]
  rfl

end CounterTables.Layout
