import CounterTables.Formula.Compile
import CounterTables.Record.EventCode
import CounterTables.Text.Blank
import CounterTables.Text.Letter

/-!
# Records of a product

A product has a configuration of scalar attributes, hardware events, metrics
computed from events by a formula, and groups of metrics. Records refer to each
other by name only.

## Main definitions

* `Event`, `Metric`, `MetricGroup` — the records with a name.
* `Configuration` — attributes sorted by key.
* `ProductTables` — everything known of one product.

## Main statements

* `pieces_joinLower` — the names in a column of names are found again.
-/

namespace CounterTables

open CounterTables.Formula (Postfix SyntaxError compile)
open CounterTables.Text (comma_mem_lower_iff lower lowerText pieces pieces_eq_splitOnP
  upperText)

/-! ## Events -/

structure Event where
  name : String
  code : EventCode
  title : String
  description : String

namespace Event

def upperName (event : Event) : String := upperText event.name

def lowerName (event : Event) : String := lowerText event.name

end Event

/-! ## Metrics -/

/-- Names in lower case with commas between them. -/
def joinLower (names : List String) : String :=
  ",".intercalate (names.map lowerText)

/-- Names without commas are found again in their column, in lower case. -/
theorem pieces_joinLower {names : List String} (hne : names ≠ [])
    (h : ∀ name ∈ names, ',' ∉ name.toList) :
    pieces (· == ',') (joinLower names).toList =
      names.map fun name => lower name.toList := by
  have htext : (joinLower names).toList =
      [','].intercalate (names.map fun name => lower name.toList) := by
    simp [joinLower, lowerText, String.toList_intercalate, Function.comp_def]
  rw [htext, pieces_eq_splitOnP]
  refine List.splitOn_intercalate ',' ?_ (by simpa using hne)
  intro part hpart
  obtain ⟨name, hname, rfl⟩ := List.mem_map.1 hpart
  rw [comma_mem_lower_iff]
  exact h name hname

/-- A metric holds the compiled form of its own formula. The events are those it
declares. -/
structure Metric where
  name : String
  source : String
  compiled : Postfix
  events : List String
  units : String
  title : String
  compile_source : compile source = .ok compiled

namespace Metric

/-- The metric with the given formula, if the formula compiles. -/
def make (name source : String) (events : List String) (units title : String) :
    Except SyntaxError Metric :=
  match h : compile source with
  | .ok compiled => .ok ⟨name, source, compiled, events, units, title, h⟩
  | .error fault => .error fault

theorem make_of_compile {name source : String} {compiled : Postfix}
    {events : List String} {units title : String} (h : compile source = .ok compiled) :
    make name source events units title =
      .ok ⟨name, source, compiled, events, units, title, h⟩ := by
  unfold make
  split
  · rename_i other hother
    obtain rfl := Except.ok.inj (h.symm.trans hother)
    rfl
  · rename_i fault hfault
    rw [h] at hfault
    cases hfault

def eventsColumn (metric : Metric) : String := joinLower metric.events

def sourceColumn (metric : Metric) : String := lowerText metric.source

def compiledColumn (metric : Metric) : String := metric.compiled.text

end Metric

structure MetricGroup where
  name : String
  metrics : List String
  title : String
  description : String

def MetricGroup.membersColumn (group : MetricGroup) : String := joinLower group.metrics

/-! ## Configuration -/

/-- The value of an attribute. -/
inductive Scalar
  | text (value : String)
  | integer (value : Int)
  deriving DecidableEq

def Scalar.toText : Scalar → String
  | text value => value
  | integer value => toString value

/-- Attributes, sorted by key with each key once. -/
abbrev Attributes := List (String × Scalar)

/-- The attributes with `key` set to `value`. -/
def Attributes.insert (key : String) (value : Scalar) : Attributes → Attributes
  | [] => [(key, value)]
  | (k, v) :: rest =>
      if key < k then (key, value) :: (k, v) :: rest
      else if key = k then (key, value) :: rest
      else (k, v) :: Attributes.insert key value rest

structure Configuration where
  product : String
  attributes : Attributes

namespace Configuration

def keys (config : Configuration) : List String :=
  config.attributes.map Prod.fst

def set (config : Configuration) (key : String) (value : Scalar) : Configuration :=
  { config with attributes := config.attributes.insert key value }

end Configuration

/-! ## Products -/

/-- The kinds of records, in the order of their sections. -/
inductive RecordKind
  | configuration
  | event
  | metric
  | group
  deriving DecidableEq

def RecordKind.label : RecordKind → String
  | configuration => "product configuration"
  | event => "event"
  | metric => "metric"
  | group => "metric group"

/-- The records of one product, each kind in the order of declaration. The
configuration is `none` if the product declares none. -/
structure ProductTables where
  product : String
  config : Option Configuration
  events : List Event
  metrics : List Metric
  groups : List MetricGroup

/-- How many records there are. -/
def ProductTables.recordCount (tables : ProductTables) : Nat :=
  (if tables.config.isSome then 1 else 0) + tables.events.length + tables.metrics.length
    + tables.groups.length

end CounterTables
