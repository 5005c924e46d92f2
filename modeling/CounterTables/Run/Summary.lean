import CounterTables.Layout.Grid
import CounterTables.Run.Report

/-!
# Summaries for people

What a run did is shown as a bordered table with a line of totals, then the
records that were left out, then the reasons of failures. The catalog is listed
as a table too.

## Main definitions

* `RunReport.summary` — what is shown of a run over products.
* `skippedListing` — the records that were left out.
* `Catalog.listing` — the entries of a catalog.
-/

namespace CounterTables

open CounterTables.Layout (Grid)

/-! ## Products -/

/-- How a status is shown. -/
def Status.label : Status → String
  | .emitted => "✓ tables"
  | .alias target => "→ " ++ target
  | .failed _ => "✗ failed"

def ProductReport.row (report : ProductReport) : List String :=
  [report.product, report.status.label, toString report.events, toString report.metrics,
    toString report.groups, toString report.skipped.length]

namespace RunReport

/-- The sum of a count over all products. -/
def total (report : RunReport) (count : ProductReport → Nat) : Nat :=
  report.products.foldr (fun product sum => count product + sum) 0

/-- The line of totals. -/
def totals (report : RunReport) : List String :=
  ["TOTAL", s!"{report.products.length} products",
    toString (report.total ProductReport.events),
    toString (report.total ProductReport.metrics),
    toString (report.total ProductReport.groups), toString report.skippedCount]

/-- The products and the totals. -/
def grid (report : RunReport) : Grid where
  style := .full
  header := ["Product", "Status", "Events", "Metrics", "Groups", "Skipped"]
  rows := report.products.map ProductReport.row ++ [report.totals]
  alignsRight column := 2 ≤ column

/-- The reasons of failures, one line each. -/
def failureListing (report : RunReport) : String :=
  match report.products.filterMap ProductReport.failure? with
  | [] => ""
  | failures =>
      "Errors:\n" ++
        String.join (failures.map fun (product, reason) =>
          "- " ++ product ++ ": " ++ reason ++ "\n")

end RunReport

/-! ## Records that were left out -/

def Skipped.row (skipped : Skipped) : List String :=
  [skipped.product, skipped.kind.label, skipped.record, skipped.reason.message]

/-- The records that were left out, if there are any. -/
def skippedListing : List Skipped → String
  | [] => ""
  | skipped =>
      let grid : Grid :=
        { style := .condensed
          header := ["Product", "Kind", "Record", "Reason"]
          rows := skipped.map Skipped.row
          alignsRight := fun _ => false }
      "\nSkipped records:\n" ++ grid.render

/-- What is shown of a run over products. -/
def RunReport.summary (report : RunReport) : String :=
  report.grid.render ++ skippedListing (report.products.flatMap ProductReport.skipped)
    ++ report.failureListing

/-! ## Catalogs -/

def Entry.row (entry : Entry) : List String :=
  [entry.family, entry.product, entry.document]

/-- The entries of a catalog. -/
def Catalog.listing (catalog : Catalog) : String :=
  let grid : Grid :=
    { style := .condensed
      header := ["Family", "Product", "Document"]
      rows := catalog.entries.map Entry.row
      alignsRight := fun _ => false }
  grid.render

end CounterTables
