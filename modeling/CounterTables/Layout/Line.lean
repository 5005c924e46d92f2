import CounterTables.Layout.Column
import CounterTables.Text.Padding

/-!
# Macro lines

A table is a sequence of macro invocations, one per line. A line fails to exist
only if one of its fields is wider than padding goes. Output takes a line piece
by piece, so a line keeps its pieces apart.

## Main definitions

* `Line` — the pieces of a line.
* `align` — a field padded to its column.
* `configField` — an attribute's value, bare if it starts with a digit.
* `invocation` — a macro's name with its fields.
* `eventLine`, `metricLine`, `groupLine`, `aliasLine`, `configLine`,
  `architectureLine`.
-/

namespace CounterTables.Layout

open CounterTables.Text (padRight)

/-! ## Fields -/

/-- The field with spaces behind it up to the width of its column. -/
def align (width : Nat) (field : String) : Option String :=
  padRight width field

/-- The quoted text with spaces behind it up to the width of its column. -/
def alignQuoted (width : Nat) (text : String) : Option String :=
  align width (quote text)

def configField (value : Scalar) : String :=
  let text := value.toText
  match text.toList with
  | c :: _ => if c.isDigit then text else quote text
  | [] => quote text

/-! ## Lines -/

/-- A macro with its fields in parentheses and commas between them. -/
def invocation (name : String) (fields : List String) : String :=
  name ++ "(" ++ ",".intercalate fields ++ ")"

/-- The pieces of a line, with its line end. -/
abbrev Line := List String

/-- A text on a line of its own. -/
def endLine (text : String) : Line := [text, "\n"]

def configLine (config : Configuration) : Line :=
  endLine (invocation "WPERF_TS_PRODUCT_CONFIGURATION"
    (quote config.product :: config.attributes.map fun entry => configField entry.2))

def eventLine (product : String) (widths : EventWidths) (event : Event) :
    Option Line := do
  let upper ← align widths.name event.upperName
  let lower ← alignQuoted widths.name event.lowerName
  some (endLine (invocation "WPERF_TS_EVENTS"
    [quote product, upper, event.code.hex4, lower, quote event.title,
      quote event.description]))

def metricLine (product : String) (widths : MetricWidths) (metric : Metric) :
    Option Line := do
  let name ← alignQuoted widths.name metric.name
  let events ← alignQuoted widths.events metric.eventsColumn
  let source ← alignQuoted widths.source metric.sourceColumn
  let compiled ← alignQuoted widths.compiled metric.compiledColumn
  let units ← alignQuoted widths.units metric.units
  some (endLine (invocation "WPERF_TS_METRICS"
    [quote product, name, events, source, compiled, units, quote metric.title]))

def groupLine (product : String) (widths : GroupWidths) (group : MetricGroup) :
    Option Line := do
  let name ← alignQuoted widths.name group.name
  let members ← alignQuoted widths.members group.membersColumn
  some (endLine (invocation "WPERF_TS_GROUPS_METRICS"
    [quote product, name, members, quote group.title, quote group.description]))

/-- A product whose tables are those of another one. -/
def aliasLine (product target : String) : Line :=
  endLine (invocation "WPERF_TS_ALIAS" [quote product, quote target])

/-- The width of the name and comma in the architecture's list. -/
def architectureNameWidth : Nat := 50

def architectureLine (event : Event) : Option Line := do
  let name ← align architectureNameWidth (event.name ++ ",")
  some ["WPERF_ARMV8_ARCH_EVENTS", "(", name, event.code.hex4, ", ",
    quote event.lowerName, ")\n"]

end CounterTables.Layout
