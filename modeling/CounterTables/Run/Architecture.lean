import CounterTables.Document.Architecture
import CounterTables.Run.Stage

/-!
# A run over the architecture's events

The list of events is read from one document and written as one table.

## Main definitions

* `runArchitecture` — licence, document, table and flush.
-/

namespace CounterTables

open CounterTables.Document (Architecture readArchitecture)

variable {m : Type → Type} [Monad m]

/-! ## Reports -/

/-- What is reported of an entry that was left out of the list. -/
def listedNotice (skipped : Skipped) : Log.Event :=
  .entry none ⟨.warn, "pmu_normalize::arch", "skipping record",
    [("product", .quoted skipped.product), ("kind", .plain skipped.kind.label),
      ("record", .plain skipped.record), ("reason", .plain skipped.reason.message)]⟩

/-- What is reported before the input is read. -/
def inputNotices (location : String) : List Log.Event :=
  if isUrl location then
    [.entry none ⟨.debug, "pmu_ingest::source", "fetching document",
      [("url", .plain location)]⟩]
  else []

/-- What is reported at the end. -/
def writtenNotice (list : Architecture) : Log.Event :=
  .entry none ⟨.info, "pmu_cli::pipeline", "architecture events written",
    [("events", .count list.events.length), ("skipped", .count list.skipped.length)]⟩

/-! ## Input -/

/-- The JSON value that bytes hold. -/
def parseJson (bytes : List UInt8) : Option Json :=
  (Text.Utf8.decode? bytes).bind Json.read

/-- The list of events in what was read at a location. -/
def listIn (location : String) :
    Except SourceFault (List UInt8) → Except RunFault Architecture
  | .error fault => .error (.input location fault)
  | .ok bytes =>
      match parseJson bytes with
      | none => .error (.notJson location)
      | some document => .ok (readArchitecture location document)

/-! ## The run -/

/-- Writes the licence and the table, and flushes. -/
def writeArchitecture (stage : Stage m) (license : Option String)
    (list : Architecture) : m (Except RunFault (List Skipped)) := do
  match ← stage.write (licenseHeader license) with
  | some fault => return .error (.licenseHeader fault)
  | none =>
      match ← stage.write (Layout.architectureLines list.events) with
      | some fault => return .error (.architecture fault)
      | none =>
          match ← stage.flush with
          | some fault => return .error (.flush fault)
          | none =>
              stage.report (writtenNotice list)
              return .ok list.skipped

/-- Writes the table of the events listed at a location. -/
def runArchitecture (location : String) (license : Option String) (files : FileReader m)
    (respond : Responder m) (stage : Stage m) : m (Except RunFault (List Skipped)) := do
  match ← readLicense files license with
  | .error fault => return .error fault
  | .ok license =>
      stage.reportAll (inputNotices location)
      match listIn location (← readLocation files respond location) with
      | .error fault => return .error fault
      | .ok list =>
          stage.reportAll (list.skipped.map listedNotice)
          writeArchitecture stage license list

end CounterTables
