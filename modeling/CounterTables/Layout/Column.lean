import CounterTables.Layout.Quoted
import CounterTables.Record.Record

/-!
# Column widths

In the tables of a product some fields stand in columns. A column is as wide as
its widest entry, escaped but without quotes, and four characters more; two of
these are for the quotes.

## Main definitions

* `columnWidth` — the width of a column with given entries.
* `Widths.measure` — the widths of all columns of a product.
-/

namespace CounterTables.Layout

/-- What a column has beyond its widest entry. -/
def gutter : Nat := 4

/-- The widest escaped entry; nothing if there is none. -/
def widest (entries : List String) : Nat :=
  entries.foldl (fun width entry => max width (escapedLength entry)) 0

def columnWidth (entries : List String) : Nat :=
  widest entries + gutter

/-! ## Columns of a product -/

/-- Upper-case and lower-case names of events share one width. -/
structure EventWidths where
  name : Nat

structure MetricWidths where
  name : Nat
  events : Nat
  source : Nat
  compiled : Nat
  units : Nat

structure GroupWidths where
  name : Nat
  members : Nat

structure Widths where
  events : EventWidths
  metrics : MetricWidths
  groups : GroupWidths

def EventWidths.measure (events : List Event) : EventWidths :=
  ⟨columnWidth (events.flatMap fun event => [event.upperName, event.lowerName])⟩

def MetricWidths.measure (metrics : List Metric) : MetricWidths :=
  { name := columnWidth (metrics.map Metric.name)
    events := columnWidth (metrics.map Metric.eventsColumn)
    source := columnWidth (metrics.map Metric.sourceColumn)
    compiled := columnWidth (metrics.map Metric.compiledColumn)
    units := columnWidth (metrics.map Metric.units) }

def GroupWidths.measure (groups : List MetricGroup) : GroupWidths :=
  { name := columnWidth (groups.map MetricGroup.name)
    members := columnWidth (groups.map MetricGroup.membersColumn) }

/-- The widths of all columns of a product. -/
def Widths.measure (tables : ProductTables) : Widths :=
  ⟨.measure tables.events, .measure tables.metrics, .measure tables.groups⟩

end CounterTables.Layout
