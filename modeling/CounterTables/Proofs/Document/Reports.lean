import Mathlib
import CounterTables.Document.Product
import CounterTables.Proofs.Json.WellKeyed

/-!
# Records and reports of one section

Every reading of a document is built from readings of single fields, and fails
with the reason of the first that fails. So what a reason can be is decided
field by field: a reason that speaks of a section never comes from an entry. And
since each report carries the kind of its section, the reports on one section
can be told from all reports on the document.

## Main results

* `readEntry_eq_ok_iff` — when an entry becomes a record.
* `blamesRecord_readEntry` — no entry is left out for a reason about sections.
* `mem_skipped_iff` — the reports on the entries of a section.
* `reportsOn_readProduct` — the reports of each kind are those of one section.
-/

namespace CounterTables.Document

/-! ## Readings that succeed -/

section Success

variable {ε α β : Type} {x : Except ε α} {b : β}

theorem bind_eq_ok_iff {f : α → Except ε β} :
    x.bind f = .ok b ↔ ∃ a, x = .ok a ∧ f a = .ok b := by
  cases x <;> simp [Except.bind]

theorem map_eq_ok_iff {f : α → β} : x.map f = .ok b ↔ ∃ a, x = .ok a ∧ f a = b := by
  cases x <;> simp [Except.map]

theorem mapError_eq_ok_iff {ε' : Type} {f : ε → ε'} {a : α} {x : Except ε α} :
    x.mapError f = .ok a ↔ x = .ok a := by
  cases x <;> simp [Except.mapError]

end Success

theorem asObject_eq_ok_iff {value : Json} {fields : Json.Fields} :
    asObject value = .ok fields ↔ value = .object fields := by
  cases value <;> simp [asObject]

/-- An entry becomes a record if it has a name and is an object from which the
record can be built. -/
theorem readEntry_eq_ok_iff {α : Type} {build : String → Json.Fields → Except Reason α}
    {entry : String × Json} {record : α} :
    readEntry build entry = .ok record ↔
      entry.1 ≠ "" ∧ ∃ fields, entry.2 = .object fields ∧
        build entry.1 fields = .ok record := by
  unfold readEntry
  split
  · simp [*]
  · simp [*, bind_eq_ok_iff, asObject_eq_ok_iff]

/-- A record goes by the key of its entry, if it is built with that name. -/
theorem name_of_readEntry {α : Type} {build : String → Json.Fields → Except Reason α}
    {name : α → String}
    (hname : ∀ key fields record, build key fields = .ok record → name record = key)
    (entry : String × Json) (record : α) (h : readEntry build entry = .ok record) :
    name record = entry.1 := by
  obtain ⟨-, fields, -, hbuild⟩ := readEntry_eq_ok_iff.1 h
  exact hname entry.1 fields record hbuild

theorem name_of_buildEvent {name : String} {record : Json.Fields} {event : Event}
    (h : buildEvent name record = .ok event) : event.name = name := by
  simp only [buildEvent, bind_eq_ok_iff, map_eq_ok_iff] at h
  obtain ⟨_, -, _, -, _, -, rfl⟩ := h
  rfl

theorem name_of_make {name source units title : String} {events : List String}
    {metric : Metric} (h : Metric.make name source events units title = .ok metric) :
    metric.name = name := by
  unfold Metric.make at h
  split at h
  · cases h
    rfl
  · cases h

theorem name_of_buildMetric {name : String} {record : Json.Fields} {metric : Metric}
    (h : buildMetric name record = .ok metric) : metric.name = name := by
  simp only [buildMetric, bind_eq_ok_iff, mapError_eq_ok_iff] at h
  obtain ⟨_, -, _, -, _, -, _, -, hmake⟩ := h
  exact name_of_make hmake

theorem name_of_buildGroup {name : String} {record : Json.Fields} {group : MetricGroup}
    (h : buildGroup name record = .ok group) : group.name = name := by
  simp only [buildGroup, bind_eq_ok_iff, map_eq_ok_iff] at h
  obtain ⟨_, -, _, -, _, -, rfl⟩ := h
  rfl

theorem key_of_readAttribute {entry : String × Json} {found : String × Scalar}
    (h : readAttribute entry = .ok found) : found.1 = entry.1 := by
  obtain ⟨_, -, rfl⟩ := map_eq_ok_iff.1 h
  rfl

/-! ## Readings that fail -/

/-- The reading does not fail for a reason about its section. -/
def BlamesRecord {α : Type} (x : Except Reason α) : Prop :=
  ∀ found, x ≠ .error (.sectionNotObject found)

section Failure

variable {α β : Type} {x : Except Reason α}

theorem BlamesRecord.bind (hx : BlamesRecord x) {f : α → Except Reason β}
    (hf : ∀ a, BlamesRecord (f a)) : BlamesRecord (x.bind f) := by
  cases x with
  | ok a => exact hf a
  | error reason =>
      intro found h
      exact hx found (by rw [Except.error.inj h])

theorem BlamesRecord.map (hx : BlamesRecord x) (f : α → β) :
    BlamesRecord (x.map f) := by
  cases x with
  | ok a => exact fun _ h => nomatch h
  | error reason =>
      intro found h
      exact hx found (by rw [Except.error.inj h])

theorem blamesRecord_mapError {ε : Type} {wrap : ε → Reason}
    (hwrap : ∀ fault found, wrap fault ≠ .sectionNotObject found) (x : Except ε α) :
    BlamesRecord (x.mapError wrap) := by
  cases x with
  | ok a => exact fun _ h => nomatch h
  | error fault => exact fun found h => hwrap fault found (Except.error.inj h)

end Failure

theorem blamesRecord_asObject (value : Json) : BlamesRecord (asObject value) := by
  cases value <;> simp [BlamesRecord, asObject]

theorem blamesRecord_optionalText (record : Json.Fields) (field : String) :
    BlamesRecord (optionalText record field) := by
  unfold optionalText
  split <;> simp [BlamesRecord]

theorem blamesRecord_requiredText (record : Json.Fields) (field : String) :
    BlamesRecord (requiredText record field) := by
  unfold requiredText
  split <;> simp [BlamesRecord]

theorem blamesRecord_readNames (field : String) (items : List Json) :
    BlamesRecord (readNames field items) := by
  induction items with
  | nil => simp [BlamesRecord, readNames]
  | cons item rest ih =>
      cases item with
      | string name => exact ih.map _
      | _ => simp [BlamesRecord, readNames]

theorem blamesRecord_optionalNames (record : Json.Fields) (field : String) :
    BlamesRecord (optionalNames record field) := by
  unfold optionalNames
  split
  · simp [BlamesRecord]
  · simp [BlamesRecord]
  · exact blamesRecord_readNames field _
  · simp [BlamesRecord]

theorem blamesRecord_eventCode (record : Json.Fields) :
    BlamesRecord (eventCode record) := by
  unfold eventCode
  split
  all_goals first
    | exact blamesRecord_mapError (fun _ _ => Reason.noConfusion) _
    | simp [BlamesRecord]

theorem blamesRecord_buildEvent (name : String) (record : Json.Fields) :
    BlamesRecord (buildEvent name record) :=
  (blamesRecord_eventCode record).bind fun _ =>
    (blamesRecord_optionalText record "title").bind fun _ =>
      (blamesRecord_optionalText record "description").map _

theorem blamesRecord_buildMetric (name : String) (record : Json.Fields) :
    BlamesRecord (buildMetric name record) :=
  (blamesRecord_requiredText record "formula").bind fun _ =>
    (blamesRecord_optionalNames record "events").bind fun _ =>
      (blamesRecord_optionalText record "units").bind fun _ =>
        (blamesRecord_optionalText record "title").bind fun _ =>
          blamesRecord_mapError (fun _ _ => Reason.noConfusion) _

theorem blamesRecord_buildGroup (name : String) (record : Json.Fields) :
    BlamesRecord (buildGroup name record) :=
  (blamesRecord_optionalNames record "metrics").bind fun _ =>
    (blamesRecord_optionalText record "title").bind fun _ =>
      (blamesRecord_optionalText record "description").map _

/-- No entry of a section is left out for a reason about the section. -/
theorem blamesRecord_readEntry {α : Type}
    {build : String → Json.Fields → Except Reason α}
    (hbuild : ∀ name record, BlamesRecord (build name record)) (entry : String × Json) :
    BlamesRecord (readEntry build entry) := by
  unfold readEntry
  split
  · simp [BlamesRecord]
  · exact (blamesRecord_asObject entry.2).bind (hbuild entry.1)

theorem blamesRecord_readAttribute (entry : String × Json) :
    BlamesRecord (readAttribute entry) := by
  have hscalar : BlamesRecord (scalar entry.2) := by
    unfold scalar
    split
    · simp [BlamesRecord]
    · split <;> simp [BlamesRecord]
    all_goals simp [BlamesRecord]
  exact hscalar.map _

/-! ## Entries one after the other -/

section Entries

variable {α : Type} {read : String × Json → Except Reason α} {entry : String × Json}
  {record : α} {reason : Reason}

theorem kept_cons_of_ok (h : read entry = .ok record) (entries : Json.Fields) :
    kept read (entry :: entries) = record :: kept read entries := by
  simp [kept, h, Except.toOption]

theorem kept_cons_of_error (h : read entry = .error reason) (entries : Json.Fields) :
    kept read (entry :: entries) = kept read entries := by
  simp [kept, h, Except.toOption]

theorem skipped_cons_of_ok (product : String) (kind : RecordKind)
    (h : read entry = .ok record) (entries : Json.Fields) :
    skipped product kind read (entry :: entries) =
      skipped product kind read entries := by
  simp [skipped, h]

theorem skipped_cons_of_error (product : String) (kind : RecordKind)
    (h : read entry = .error reason) (entries : Json.Fields) :
    skipped product kind read (entry :: entries) =
      ⟨product, kind, entry.1, reason⟩ :: skipped product kind read entries := by
  simp [skipped, h]

end Entries

/-! ## Reports by kind -/

/-- The reports on records of one kind. -/
def Reading.reportsOn (reading : Reading) (kind : RecordKind) : List Skipped :=
  reading.skipped.filter fun report => report.kind = kind

theorem mem_skipped_iff {α : Type} {product : String} {kind : RecordKind}
    {read : String × Json → Except Reason α} {entries : Json.Fields}
    {report : Skipped} :
    report ∈ skipped product kind read entries ↔
      ∃ entry ∈ entries, ∃ reason, read entry = .error reason ∧
        report = ⟨product, kind, entry.1, reason⟩ := by
  refine List.mem_filterMap.trans (exists_congr fun entry =>
    and_congr_right fun _ => ?_)
  cases read entry with
  | ok record => simp
  | error reason => simp [eq_comm]

theorem kind_of_mem_skipped {α : Type} {product : String} {kind : RecordKind}
    {read : String × Json → Except Reason α} {entries : Json.Fields} {report : Skipped}
    (h : report ∈ skipped product kind read entries) : report.kind = kind := by
  obtain ⟨entry, -, reason, -, rfl⟩ := mem_skipped_iff.1 h
  rfl

theorem kind_of_mem_readRecords {α : Type} {product : String} {kind : RecordKind}
    {name : String} {build : String → Json.Fields → Except Reason α}
    {value : Option Json} {report : Skipped}
    (h : report ∈ (readRecords product kind name build value).2) :
    report.kind = kind := by
  unfold readRecords at h
  split at h
  · cases h
  · exact kind_of_mem_skipped h
  · rw [List.mem_singleton.1 h]

theorem kind_of_mem_readConfiguration {product : String} {value : Option Json}
    {report : Skipped} (h : report ∈ (readConfiguration product value).2) :
    report.kind = .configuration := by
  unfold readConfiguration at h
  split at h
  · cases h
  · exact kind_of_mem_skipped h
  · rw [List.mem_singleton.1 h]

theorem kind_of_mem_readGroups {product : String} {value : Option Json}
    {report : Skipped} (h : report ∈ (readGroups product value).2) :
    report.kind = .group := by
  unfold readGroups at h
  split at h
  · exact kind_of_mem_readRecords h
  · rw [List.mem_singleton.1 h]

theorem filter_kind {kind kind' : RecordKind} {reports : List Skipped}
    (h : ∀ report ∈ reports, report.kind = kind') :
    reports.filter (fun report => report.kind = kind) =
      if kind' = kind then reports else [] := by
  split
  · rename_i heq
    rw [List.filter_eq_self]
    intro report hreport
    rw [h report hreport, decide_eq_true heq]
  · rename_i hne
    rw [List.filter_eq_nil_iff]
    intro report hreport
    rw [h report hreport, decide_eq_true_eq]
    exact hne

/-- The reports of each kind are those of its section. -/
theorem reportsOn_readProduct (product : String) (document : Json.Fields)
    (kind : RecordKind) :
    (readProduct product document).reportsOn kind =
      match kind with
      | .configuration =>
          (readConfiguration product (document.get? "product_configuration")).2
      | .event =>
          (readRecords product .event "events" buildEvent (document.get? "events")).2
      | .metric =>
          (readRecords product .metric "metrics" buildMetric
            (document.get? "metrics")).2
      | .group => (readGroups product (document.get? "groups")).2 := by
  unfold Reading.reportsOn readProduct
  simp only [List.filter_append,
    filter_kind (fun _ h => kind_of_mem_readConfiguration h),
    filter_kind (fun _ h => kind_of_mem_readRecords h),
    filter_kind (fun _ h => kind_of_mem_readGroups h)]
  cases kind <;> simp

end CounterTables.Document
