/-!
# Log entries

What a run reports while it goes on. An entry has a level, the component it
comes from, a message and named values. Entries about one product stand inside a
span that carries the product's name.

## Main definitions

* `Level` — from errors down to traces.
* `Value` — a value as it stands, a text to be shown in quotes, or a count.
* `Entry` and `Event` — an entry, and an entry with the span around it or the
  end of a span.
-/

namespace CounterTables.Log

/-- How much detail an entry has; errors come first. -/
inductive Level
  | error
  | warn
  | info
  | debug
  | trace
  deriving DecidableEq

namespace Level

/-- The place in the order of detail. -/
def rank : Level → Nat
  | error => 1
  | warn => 2
  | info => 3
  | debug => 4
  | trace => 5

def name : Level → String
  | error => "ERROR"
  | warn => "WARN"
  | info => "INFO"
  | debug => "DEBUG"
  | trace => "TRACE"

end Level

inductive Value
  /-- A text shown as it is. -/
  | plain (text : String)
  /-- A text shown in quotes. -/
  | quoted (text : String)
  | count (number : Nat)

structure Entry where
  level : Level
  /-- The component that reports, a path of names. -/
  target : String
  message : String
  values : List (String × Value)

inductive Event
  /-- An entry, inside the span of a product or outside all spans. -/
  | entry (product : Option String) (entry : Entry)
  /-- The end of the span of a product. -/
  | close (product : String)

end CounterTables.Log
