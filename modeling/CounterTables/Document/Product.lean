import CounterTables.Document.Field

/-!
# From a document to the records of a product

A product document has up to four sections: the configuration, the events, the
metrics, and the metrics inside the groups. Each entry of a section becomes a
record or a report of why it was left out. Sections are read in this order,
whatever their order in the document.

## Main definitions

* `readSection` — a section that may be missing but must be an object.
* `readRecords` — the records and reports of a section with one record per
  entry.
* `readProduct` — everything the document says of the product.
-/

namespace CounterTables.Document

/-! ## Sections -/

/-- The entries of a section; `none` if the document lacks it. -/
def readSection : Option Json → Except Reason (Option Json.Fields)
  | none => .ok none
  | some (.object entries) => .ok (some entries)
  | some other => .error (.sectionNotObject other.kindName)

/-- The record of one entry. -/
def readEntry {α : Type} (build : String → Json.Fields → Except Reason α)
    (entry : String × Json) : Except Reason α :=
  if entry.1 = "" then .error .emptyName
  else (asObject entry.2).bind (build entry.1)

/-- The results of reading, in order. -/
def kept {α β : Type} (read : β → Except Reason α) (entries : List β) : List α :=
  entries.filterMap fun entry => (read entry).toOption

/-- The reports on the entries that could not be read, in order. -/
def skipped {α : Type} (product : String) (kind : RecordKind)
    (read : String × Json → Except Reason α) (entries : Json.Fields) : List Skipped :=
  entries.filterMap fun entry =>
    match read entry with
    | .ok _ => none
    | .error reason => some ⟨product, kind, entry.1, reason⟩

/-- The records of a section, and the reports on what was left out. -/
def readRecords {α : Type} (product : String) (kind : RecordKind) (name : String)
    (build : String → Json.Fields → Except Reason α) (value : Option Json) :
    List α × List Skipped :=
  match readSection value with
  | .ok none => ([], [])
  | .ok (some entries) =>
      (kept (readEntry build) entries, skipped product kind (readEntry build) entries)
  | .error reason => ([], [⟨product, kind, name, reason⟩])

/-! ## Records -/

def buildEvent (name : String) (record : Json.Fields) : Except Reason Event :=
  (eventCode record).bind fun code =>
  (optionalText record "title").bind fun title =>
  (optionalText record "description").map fun description =>
  ⟨name, code, title, description⟩

def buildMetric (name : String) (record : Json.Fields) : Except Reason Metric :=
  (requiredText record "formula").bind fun formula =>
  (optionalNames record "events").bind fun events =>
  (optionalText record "units").bind fun units =>
  (optionalText record "title").bind fun title =>
  (Metric.make name formula events units title).mapError .formulaFault

def buildGroup (name : String) (record : Json.Fields) : Except Reason MetricGroup :=
  (optionalNames record "metrics").bind fun metrics =>
  (optionalText record "title").bind fun title =>
  (optionalText record "description").map fun description =>
  ⟨name, metrics, title, description⟩

/-- An attribute with its key, which may be empty. -/
def readAttribute (entry : String × Json) : Except Reason (String × Scalar) :=
  (scalar entry.2).map (entry.1, ·)

/-- The configuration with all attributes that can be used. -/
def readConfiguration (product : String) (value : Option Json) :
    Option Configuration × List Skipped :=
  match readSection value with
  | .ok none => (none, [])
  | .ok (some entries) =>
      let config := (kept readAttribute entries).foldl
        (fun (config : Configuration) entry => config.set entry.1 entry.2)
        ⟨product, []⟩
      (some config, skipped product .configuration readAttribute entries)
  | .error reason =>
      (none, [⟨product, .configuration, "product_configuration", reason⟩])

/-- The groups: the section `metrics` inside the section `groups`. -/
def readGroups (product : String) (value : Option Json) :
    List MetricGroup × List Skipped :=
  match readSection value with
  | .ok groups =>
      readRecords product .group "groups.metrics" buildGroup
        (groups.bind fun fields => fields.get? "metrics")
  | .error reason => ([], [⟨product, .group, "groups", reason⟩])

/-! ## The document -/

/-- The records of a product, and what was left out of its document. -/
structure Reading where
  tables : ProductTables
  skipped : List Skipped

/-- Everything the document says of the product. -/
def readProduct (product : String) (document : Json.Fields) : Reading :=
  let (config, noConfig) :=
    readConfiguration product (document.get? "product_configuration")
  let (events, noEvents) :=
    readRecords product .event "events" buildEvent (document.get? "events")
  let (metrics, noMetrics) :=
    readRecords product .metric "metrics" buildMetric (document.get? "metrics")
  let (groups, noGroups) := readGroups product (document.get? "groups")
  { tables := ⟨product, config, events, metrics, groups⟩
    skipped := noConfig ++ noEvents ++ noMetrics ++ noGroups }

end CounterTables.Document
