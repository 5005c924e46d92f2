import CounterTables.Document.Skipped
import CounterTables.Output.Sink
import CounterTables.Settings.Settings

/-!
# Reports and faults of a run

What a run says of each product in the end, and why a run as a whole may fail. A
fault of one product's document is part of the report; only faults of settings,
licence, input and output end a run.
-/

namespace CounterTables

/-! ## Reports -/

inductive Status
  /-- The tables were written. -/
  | emitted
  /-- The document is an alias, and a line for it was written. -/
  | alias (target : String)
  /-- The document could not be had; only its location was written. -/
  | failed (reason : String)
  deriving DecidableEq

structure ProductReport where
  product : String
  location : String
  status : Status
  events : Nat
  metrics : Nat
  groups : Nat
  skipped : List Skipped

namespace ProductReport

def hasFailed (report : ProductReport) : Bool :=
  match report.status with
  | .failed _ => true
  | _ => false

/-- The reason of a failure, with the product. -/
def failure? (report : ProductReport) : Option (String × String) :=
  match report.status with
  | .failed reason => some (report.product, reason)
  | _ => none

end ProductReport

/-- The reports on all products, in order. -/
structure RunReport where
  products : List ProductReport

namespace RunReport

def failedCount (report : RunReport) : Nat :=
  (report.products.filter ProductReport.hasFailed).length

def skippedCount (report : RunReport) : Nat :=
  (report.products.flatMap ProductReport.skipped).length

/-- Whether a product failed or a record was left out. -/
def hasProblems (report : RunReport) : Bool :=
  0 < report.failedCount || 0 < report.skippedCount

end RunReport

/-! ## Faults -/

/-- Why a run ended early. -/
inductive RunFault
  | settings (fault : SettingsFault)
  | license (path : String) (fault : FileFault)
  | licenseHeader (fault : WriteFault)
  | product (name : String) (fault : WriteFault)
  | flush (fault : WriteFault)
  | input (location : String) (fault : SourceFault)
  | notJson (location : String)
  | architecture (fault : WriteFault)
  | create (path : String) (fault : FileFault)
  deriving DecidableEq

namespace RunFault

/-- What was being done, then the messages of the faults behind it. -/
def chain : RunFault → List String
  | settings fault => fault.chain
  | license path fault => [s!"read license file {path}", fault.message]
  | licenseHeader fault => ["write license header", fault.message]
  | product name fault => [s!"write tables for {name}", fault.message]
  | flush fault => ["flush output", fault.message]
  | input location fault => s!"read {location}" :: fault.chain
  | notJson location => [s!"parse {location} as JSON", "invalid JSON"]
  | architecture fault => ["write architecture events", fault.message]
  | create path fault => [s!"create {path}", fault.message]

/-- The whole chain. -/
def message (fault : RunFault) : String :=
  ": ".intercalate fault.chain

/-- What was being done, without the faults behind it. -/
def context (fault : RunFault) : String :=
  fault.chain.headD ""

/-- The fault of the output, if the run ended with one. -/
def writeFault? : RunFault → Option WriteFault
  | licenseHeader fault => some fault
  | product _ fault => some fault
  | flush fault => some fault
  | architecture fault => some fault
  | _ => none

end RunFault

end CounterTables
