import Mathlib
import CounterTables.Proofs.Document.Reports
import CounterTables.Proofs.Record.Attributes

/-!
# Nothing is lost

An entry that cannot be used must not vanish, and one that can must not be
counted twice. A section is `Divided` into records and reports if each of its
entries, in order, either becomes the next record or gets the next report. The
reports are those among all reports on the document that carry the kind of the
section, so the division accounts for the whole outcome of reading.

A report carries the key of its entry, and a record the same name, which makes
the names of records distinct wherever the keys are, and so in every document
that is loaded (`Document.wellKeyed_of_parse`).

## Main results

* `divided_kept_skipped` — the entries of a section are divided.
* `accounted_readRecords` — what a section comes to, be it absent, malformed or
  an object.
* `readProduct_accounts` — the four sections of a document.
-/

namespace CounterTables.Document

/-! ## Division -/

/-- The entries come apart into records and reports: each entry, in order,
either becomes the next record or gets the next report. -/
inductive Divided {α : Type} (becomes : String × Json → α → Prop)
    (reported : String × Json → Skipped → Prop) :
    Json.Fields → List α → List Skipped → Prop
  | nil : Divided becomes reported [] [] []
  | record {entry : String × Json} {record : α} {entries : Json.Fields}
      {records : List α} {reports : List Skipped} (hentry : becomes entry record)
      (hrest : Divided becomes reported entries records reports) :
      Divided becomes reported (entry :: entries) (record :: records) reports
  | report {entry : String × Json} {report : Skipped} {entries : Json.Fields}
      {records : List α} {reports : List Skipped} (hentry : reported entry report)
      (hrest : Divided becomes reported entries records reports) :
      Divided becomes reported (entry :: entries) records (report :: reports)

section Entries

variable {α : Type} (read : String × Json → Except Reason α) (name : α → String)
  (product : String) (kind : RecordKind)

/-- The entry can be read as the record, which goes by the key of the entry. -/
def Becomes (entry : String × Json) (record : α) : Prop :=
  read entry = .ok record ∧ name record = entry.1

/-- The entry cannot be read, for the reason in the report, which carries the
key of the entry. -/
def ReportedAs (entry : String × Json) (report : Skipped) : Prop :=
  ∃ reason, read entry = .error reason ∧ report = ⟨product, kind, entry.1, reason⟩

variable {read name}

theorem divided_kept_skipped
    (hname : ∀ entry record, read entry = .ok record → name record = entry.1)
    (entries : Json.Fields) :
    Divided (Becomes read name) (ReportedAs read product kind) entries
      (kept read entries) (skipped product kind read entries) := by
  induction entries with
  | nil => exact .nil
  | cons entry entries ih =>
      cases hread : read entry with
      | ok record =>
          rw [kept_cons_of_ok hread, skipped_cons_of_ok product kind hread]
          exact .record ⟨hread, hname entry record hread⟩ ih
      | error reason =>
          rw [kept_cons_of_error hread, skipped_cons_of_error product kind hread]
          exact .report ⟨reason, hread, rfl⟩ ih

variable {product kind} {entries : Json.Fields} {records : List α}
  {reports : List Skipped}

/-- The names of records are keys of the section, in the order of the
section. -/
theorem Divided.names_sublist
    (h : Divided (Becomes read name) (ReportedAs read product kind) entries records
      reports) :
    (records.map name).Sublist (entries.map Prod.fst) := by
  induction h with
  | nil => exact .slnil
  | record hentry _ ih =>
      rw [List.map_cons, List.map_cons, hentry.2]
      exact ih.cons_cons _
  | report _ _ ih => exact ih.cons _

theorem Divided.exists_of_mem
    (h : Divided (Becomes read name) (ReportedAs read product kind) entries records
      reports) {record : α} (hrecord : record ∈ records) :
    ∃ entry ∈ entries, Becomes read name entry record := by
  induction h with
  | nil => cases hrecord
  | record hentry _ ih =>
      rcases List.mem_cons.1 hrecord with rfl | hrecord
      · exact ⟨_, List.mem_cons_self, hentry⟩
      · obtain ⟨entry, hmem, hbecomes⟩ := ih hrecord
        exact ⟨entry, List.mem_cons_of_mem _ hmem, hbecomes⟩
  | report _ _ ih =>
      obtain ⟨entry, hmem, hbecomes⟩ := ih hrecord
      exact ⟨entry, List.mem_cons_of_mem _ hmem, hbecomes⟩

end Entries

/-! ## Sections of records -/

section Accounts

variable {α : Type} (product : String)

/-- What a section comes to. One that is absent has neither records nor reports,
one that is no object has one report, which goes by the name of the section, and
the entries of an object are divided, the records having names that are distinct
and not empty. -/
def Accounted (kind : RecordKind) (sectionName : String)
    (read : String × Json → Except Reason α) (name : α → String) (value : Option Json)
    (records : List α) (reports : List Skipped) : Prop :=
  match value with
  | none => records = [] ∧ reports = []
  | some (.object entries) =>
      Divided (Becomes read name) (ReportedAs read product kind)
        entries records reports ∧
        (records.map name).Nodup ∧ "" ∉ records.map name
  | some other =>
      records = [] ∧
        reports = [⟨product, kind, sectionName, .sectionNotObject other.kindName⟩]

/-- The groups are the section `metrics` of the section `groups`. -/
def GroupsAccounted (value : Option Json) (groups : List MetricGroup)
    (reports : List Skipped) : Prop :=
  match value with
  | some (.object fields) =>
      Accounted product .group "groups.metrics" (readEntry buildGroup) MetricGroup.name
        (Json.Fields.get? fields "metrics") groups reports
  | other =>
      Accounted product .group "groups" (readEntry buildGroup) MetricGroup.name other
        groups reports

/-- A configuration is there if its section is an object. The entries are
divided into attributes and reports, and the attributes are sorted: their keys
increase strictly, byte by byte. -/
def ConfigurationAccounted (value : Option Json) (config : Option Configuration)
    (reports : List Skipped) : Prop :=
  match value with
  | none => config = none ∧ reports = []
  | some (.object entries) =>
      ∃ configuration attributes, config = some configuration ∧
        configuration.product = product ∧
        Divided (Becomes readAttribute Prod.fst)
          (ReportedAs readAttribute product .configuration) entries attributes reports ∧
        configuration.attributes.Perm attributes ∧
        (configuration.keys.map Text.Utf8.encode).Pairwise (· < ·)
  | some other =>
      config = none ∧ reports = [⟨product, .configuration, "product_configuration",
        .sectionNotObject other.kindName⟩]

variable {product}

theorem accounted_readRecords {kind : RecordKind} {sectionName : String}
    {build : String → Json.Fields → Except Reason α} {name : α → String}
    (hname : ∀ key fields record, build key fields = .ok record → name record = key)
    {value : Option Json} (hvalue : ∀ entries, value = some (.object entries) →
      Json.Fields.Distinct entries) :
    Accounted product kind sectionName (readEntry build) name value
      (readRecords product kind sectionName build value).1
      (readRecords product kind sectionName build value).2 := by
  unfold Accounted
  split
  · exact ⟨rfl, rfl⟩
  · rename_i entries
    have hdivided :=
      divided_kept_skipped product kind (name_of_readEntry hname) entries
    refine ⟨hdivided, hdivided.names_sublist.nodup (hvalue entries rfl), ?_⟩
    intro hempty
    obtain ⟨record, hrecord, hrecordName⟩ := List.mem_map.1 hempty
    obtain ⟨entry, -, hread, hkey⟩ := hdivided.exists_of_mem hrecord
    exact (readEntry_eq_ok_iff.1 hread).1 (hkey.symm.trans hrecordName)
  · rename_i other hother
    cases other with
    | object entries => exact absurd rfl (hother entries)
    | _ => exact ⟨rfl, rfl⟩

theorem groupsAccounted_readGroups {value : Option Json}
    (hvalue : ∀ found, value = some found → found.WellKeyed) :
    GroupsAccounted product value (readGroups product value).1
      (readGroups product value).2 := by
  unfold GroupsAccounted
  split
  · rename_i fields
    exact accounted_readRecords (fun _ _ _ => name_of_buildGroup) fun _ hentries =>
      (hvalue _ rfl).distinct_of_get? hentries
  · rename_i other hother
    unfold Accounted
    split
    · exact ⟨rfl, rfl⟩
    · rename_i fields
      exact absurd rfl (hother fields)
    · rename_i found hfound
      cases found with
      | object fields => exact absurd rfl (hfound fields)
      | _ => exact ⟨rfl, rfl⟩

theorem configurationAccounted_readConfiguration {value : Option Json}
    (hvalue : ∀ entries, value = some (.object entries) →
      Json.Fields.Distinct entries) :
    ConfigurationAccounted product value (readConfiguration product value).1
      (readConfiguration product value).2 := by
  unfold ConfigurationAccounted
  split
  · exact ⟨rfl, rfl⟩
  · rename_i entries
    have hdivided := divided_kept_skipped product .configuration
      (fun _ _ => key_of_readAttribute) entries
    have hnodup : ((kept readAttribute entries).map Prod.fst).Nodup :=
      hdivided.names_sublist.nodup (hvalue entries rfl)
    refine ⟨_, kept readAttribute entries, rfl, ?_, hdivided, ?_, ?_⟩
    · exact Configuration.product_foldl_set _ _
    · exact Configuration.perm_attributes_foldl_set hnodup
    · exact Configuration.pairwise_encode_keys product _
  · rename_i other hother
    cases other with
    | object entries => exact absurd rfl (hother entries)
    | _ => exact ⟨rfl, rfl⟩

end Accounts

/-! ## Documents -/

/-- **Nothing is lost and nothing is counted twice.** Whatever the document
holds, its sections account for all records, attributes and reports: each entry
becomes one of its kind or gets one report of its kind, in order. -/
theorem readProduct_accounts (product : String) {document : Json.Fields}
    (h : (Json.object document).WellKeyed) :
    let reading := readProduct product document
    ConfigurationAccounted product (document.get? "product_configuration")
        reading.tables.config (reading.reportsOn .configuration) ∧
      Accounted product .event "events" (readEntry buildEvent) Event.name
        (document.get? "events") reading.tables.events (reading.reportsOn .event) ∧
      Accounted product .metric "metrics" (readEntry buildMetric) Metric.name
        (document.get? "metrics") reading.tables.metrics (reading.reportsOn .metric) ∧
      GroupsAccounted product (document.get? "groups") reading.tables.groups
        (reading.reportsOn .group) := by
  simp only [reportsOn_readProduct]
  refine ⟨?_, ?_, ?_, ?_⟩
  · exact configurationAccounted_readConfiguration fun _ => h.distinct_of_get?
  · exact accounted_readRecords (fun _ _ _ => name_of_buildEvent)
      fun _ => h.distinct_of_get?
  · exact accounted_readRecords (fun _ _ _ => name_of_buildMetric)
      fun _ => h.distinct_of_get?
  · exact groupsAccounted_readGroups fun found hget => h.of_get? hget

/-- A section that is no object, one that is absent, and two in which entries
that can be used stand between others that cannot. -/
def mixedDocument : Json.Fields :=
  [("events", .object
      [("A", .object [("code", .number (.integer 17))]), ("B", .null),
        ("", .object [("code", .string "0x11")]),
        ("C", .object [("code", .string "8")])]),
    ("metrics", .string "none"),
    ("groups", .object
      [("metrics", .object
        [("all", .object [("metrics", .array [.bool true])]), ("few", .object [])])])]

theorem mixedDocument_accounts :
    (Json.object mixedDocument).WellKeyed ∧
    let reading := readProduct "n1" mixedDocument
    ConfigurationAccounted "n1" (Json.Fields.get? mixedDocument "product_configuration")
        reading.tables.config (reading.reportsOn .configuration) ∧
      Accounted "n1" .event "events" (readEntry buildEvent) Event.name
        (Json.Fields.get? mixedDocument "events") reading.tables.events
        (reading.reportsOn .event) ∧
      Accounted "n1" .metric "metrics" (readEntry buildMetric) Metric.name
        (Json.Fields.get? mixedDocument "metrics") reading.tables.metrics
        (reading.reportsOn .metric) ∧
      GroupsAccounted "n1" (Json.Fields.get? mixedDocument "groups")
        reading.tables.groups (reading.reportsOn .group) := by
  have hkeys : (Json.object mixedDocument).WellKeyed := by
    simp [mixedDocument, Json.Fields.Distinct]
  exact ⟨hkeys, readProduct_accounts "n1" hkeys⟩

end CounterTables.Document
