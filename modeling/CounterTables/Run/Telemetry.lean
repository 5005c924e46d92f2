import CounterTables.Document.Product
import CounterTables.Run.Stage

/-!
# A run over the products

Product after product, in the order of the catalog, a run writes where the
document is, loads it, and writes what it describes. What a product adds to the
output depends on its own entry alone.

## Main definitions

* `Visit`, `visitDocument` — what a run does with one document.
* `visit`, `visitAll` — one entry, and the entries one after another.
* `runTelemetry` — licence, entries and flush.
-/

namespace CounterTables

open CounterTables.Document (Reading readProduct)

variable {m : Type → Type} [Monad m]

/-! ## One document -/

/-- What a run does with a document: reports, then lines, then reports again. -/
structure Visit where
  notices : List Log.Entry
  lines : Layout.Lines
  /-- What is reported once the lines are written. -/
  done : List Log.Entry
  report : ProductReport

/-- What is reported of a record that was left out of a product's document. -/
def skippedNotice (skipped : Skipped) : Log.Entry :=
  ⟨.warn, "pmu_normalize::normalizer", "skipping record",
    [("product", .quoted skipped.product), ("kind", .plain skipped.kind.label),
      ("record", .quoted skipped.record), ("reason", .plain skipped.reason.message)]⟩

/-- What is reported of a product's records. -/
def readingNotices (product : String) (reading : Reading) : List Log.Entry :=
  let tables := reading.tables
  reading.skipped.map skippedNotice ++
    [⟨.debug, "pmu_normalize::normalizer", "normalized product",
        [("product", .quoted product), ("events", .count tables.events.length),
          ("metrics", .count tables.metrics.length),
          ("groups", .count tables.groups.length),
          ("skipped", .count reading.skipped.length)]⟩,
      ⟨.trace, "pmu_output::emitter", "emitting product tables",
        [("product", .quoted product)]⟩]

/-- What is reported of a document that is an alias. -/
def aliasNotices (product target : String) : List Log.Entry :=
  [⟨.debug, "pmu_ingest::document", "document is an alias",
      [("product", .plain product), ("target", .plain target)]⟩,
    ⟨.info, "pmu_cli::pipeline", "alias", [("target", .plain target)]⟩]

/-- What is reported of a document that could not be loaded. -/
def failureNotice (location : String) (fault : SourceFault) : Log.Entry :=
  ⟨.error, "pmu_cli::pipeline",
    if fault.isRetrieval then "document unavailable" else "document unreadable",
    [("location", .plain location), ("error", .plain fault.message)]⟩

/-- What a run does with the document at a place. -/
def visitDocument (entry : Entry) (location : String) :
    Except SourceFault Document → Visit
  | .error fault =>
      { notices := [failureNotice location fault]
        lines := []
        done := []
        report := ⟨entry.product, location, .failed fault.message, 0, 0, 0, []⟩ }
  | .ok (.alias target) =>
      { notices := aliasNotices entry.product target
        lines := Layout.aliasLines entry.product target
        done := []
        report := ⟨entry.product, location, .alias target, 0, 0, 0, []⟩ }
  | .ok (.described fields) =>
      let reading := readProduct entry.product fields
      let tables := reading.tables
      { notices := readingNotices entry.product reading
        lines := Layout.productLines tables
        done :=
          [⟨.info, "pmu_cli::pipeline", "emitted",
            [("events", .count tables.events.length),
              ("metrics", .count tables.metrics.length),
              ("groups", .count tables.groups.length)]⟩]
        report := ⟨entry.product, location, .emitted, tables.events.length,
          tables.metrics.length, tables.groups.length, reading.skipped⟩ }

/-! ## One entry -/

/-- Reports inside the span of a product. -/
def Stage.reportInside (stage : Stage m) (product : String) (entries : List Log.Entry) :
    m Unit :=
  stage.reportAll (entries.map (.entry (some product)))

/-- Does with a document what is to be done, inside the span of its product. -/
def Visit.perform (visit : Visit) (stage : Stage m) :
    m (Except WriteFault ProductReport) := do
  let product := visit.report.product
  stage.reportInside product visit.notices
  match ← stage.write visit.lines with
  | some fault => return .error fault
  | none =>
      stage.reportInside product visit.done
      return .ok visit.report

/-- Writes where the document of an entry is, loads it, and does what is to be
done with it. -/
def visitInside (stage : Stage m) (source : DocumentSource m) (entry : Entry) :
    m (Except WriteFault ProductReport) := do
  let location := source.locate entry
  match ← stage.write (Layout.locationLines location) with
  | some fault => return .error fault
  | none =>
      stage.reportInside entry.product (source.announce entry)
      let document ← source.load entry
      (visitDocument entry location document).perform stage

/-- Visits an entry. The span of its product ends in any case. -/
def visit (stage : Stage m) (source : DocumentSource m) (entry : Entry) :
    m (Except RunFault ProductReport) := do
  let result ← visitInside stage source entry
  stage.report (.close entry.product)
  return result.mapError (.product entry.product)

/-! ## All entries -/

/-- Visits the entries in order, up to the first failure of the output. -/
def visitAll (stage : Stage m) (source : DocumentSource m) :
    List Entry → m (Except RunFault (List ProductReport))
  | [] => return .ok []
  | entry :: rest => do
      match ← visit stage source entry with
      | .error fault => return .error fault
      | .ok report => return (← visitAll stage source rest).map (report :: ·)

/-- What is reported at the end of a run. -/
def completeNotice (report : RunReport) : Log.Event :=
  .entry none ⟨.info, "pmu_cli::pipeline", "telemetry run complete",
    [("products", .count report.products.length), ("failed", .count report.failedCount),
      ("skipped", .count report.skippedCount)]⟩

/-! ## The run -/

/-- Visits the entries, and flushes. -/
def visitAndFlush (stage : Stage m) (source : DocumentSource m) (entries : List Entry) :
    m (Except RunFault RunReport) := do
  match ← visitAll stage source entries with
  | .error fault => return .error fault
  | .ok products =>
      match ← stage.flush with
      | some fault => return .error (.flush fault)
      | none =>
          stage.report (completeNotice ⟨products⟩)
          return .ok ⟨products⟩

/-- A run over the products that the settings want: licence, entries and
flush. -/
def runTelemetry (settings : Settings) (files : FileReader m)
    (source : DocumentSource m) (stage : Stage m) : m (Except RunFault RunReport) :=
  match settings.entries with
  | .error fault => return .error (.settings fault)
  | .ok entries => do
      match ← readLicense files settings.license with
      | .error fault => return .error fault
      | .ok license =>
          match ← stage.write (licenseHeader license) with
          | some fault => return .error (.licenseHeader fault)
          | none => visitAndFlush stage source entries

end CounterTables
