import CounterTables.Json.Writer
import CounterTables.Log.Filter
import CounterTables.Text.Display

/-!
# Lines of the log

Each entry that is shown makes one line: pretty, compact or JSON. The pretty and
the compact form may be coloured.

## Main definitions

* `prettyLine`, `compactLine`, `jsonLine`, `closeLine`.
* `line?` — the line of an event, if it is shown.
-/

namespace CounterTables.Log

open CounterTables.Text (inQuotes)

/-! ## Colours -/

/-- The text in a style, if styles are used. -/
def paint (ansi : Bool) (code text : String) : String :=
  if ansi then "\x1b[" ++ code ++ "m" ++ text ++ "\x1b[0m" else text

def bold (ansi : Bool) (text : String) : String := paint ansi "1" text

def dimmed (ansi : Bool) (text : String) : String := paint ansi "2" text

def italic (ansi : Bool) (text : String) : String := paint ansi "3" text

def Level.colour : Level → String
  | error => "31"
  | warn => "33"
  | info => "32"
  | debug => "34"
  | trace => "35"

/-- The name of a level, right-aligned to five characters. -/
def Level.label (ansi : Bool) (level : Level) : String :=
  let name := level.name
  paint ansi level.colour (if name.length < 5 then " " ++ name else name)

/-! ## Lines for people -/

def Value.text : Value → String
  | plain text => text
  | quoted text => inQuotes text
  | count number => toString number

/-- A name and its value. -/
def pair (ansi : Bool) (entry : String × Value) : String :=
  italic ansi entry.1 ++ dimmed ansi "=" ++ entry.2.text

/-- The message and the values. -/
def content (ansi : Bool) (entry : Entry) : String :=
  " ".intercalate (entry.message :: entry.values.map (pair ansi))

/-- The value that the span of a product carries. -/
def spanPair (ansi : Bool) (product : String) : String :=
  pair ansi (Filter.spanName, .plain product)

def prettyLine (ansi : Bool) (product : Option String) (entry : Entry) : String :=
  let span := product.elim "" fun product =>
    bold ansi Filter.spanName ++ bold ansi "\x7b" ++ spanPair ansi product ++
      bold ansi "\x7d"
      ++ dimmed ansi ":" ++ " "
  entry.level.label ansi ++ " " ++ span ++ content ansi entry ++ "\n"

def compactLine (ansi : Bool) (product : Option String) (entry : Entry) : String :=
  let before := product.elim "" fun _ => bold ansi Filter.spanName ++ ": "
  let after := product.elim "" fun product => " " ++ dimmed ansi (spanPair ansi product)
  entry.level.label ansi ++ " " ++ before ++ content ansi entry ++ after ++ "\n"

/-! ## JSON lines -/

def Value.json : Value → Json
  | plain text => .string text
  | quoted text => .string text
  | count number => .number (.integer number)

/-- The span of a product as an object. -/
def spanJson (product : String) : Json :=
  .object [(Filter.spanName, .string product), ("name", .string Filter.spanName)]

/-- A line with a level and values; `around` are the spans around it. -/
def jsonObject (level : Level) (values : Json.Fields) (span : Option String)
    (around : List String) : String :=
  let spans :=
    match span with
    | some product =>
        [("span", spanJson product), ("spans", Json.array (around.map spanJson))]
    | none => []
  (Json.object
    ([("level", .string level.name), ("fields", .object values)] ++ spans)).write
    ++ "\n"

def jsonLine (product : Option String) (entry : Entry) : String :=
  jsonObject entry.level
    (("message", .string entry.message) :: entry.values.map fun value =>
      (value.1, value.2.json))
    product product.toList

/-- The line for the end of the span of a product. -/
def closeLine (product : String) : String :=
  jsonObject .info [("message", .string "close")] (some product) []

/-! ## Events -/

/-- The line of an event, if it is shown. The end of a span is reported in JSON
only. -/
def line? (settings : Settings) (filter : Filter) : Event → Option String
  | .entry product entry =>
      if filter.shows product entry then
        let product := if filter.showsSpan then product else none
        some (match settings.format with
          | .pretty => prettyLine settings.ansi product entry
          | .compact => compactLine settings.ansi product entry
          | .json => jsonLine product entry)
      else none
  | .close product =>
      if settings.format = .json && settings.spans && filter.showsSpan then
        some (closeLine product)
      else none

end CounterTables.Log
