import CounterTables.Log.Entry

/-!
# Settings of the log

How much is shown, in which form, and where it goes.
-/

namespace CounterTables.Log

/-- The most detailed level that is shown; `none` shows nothing. -/
abbrev Limit := Option Level

namespace Limit

/-- The number of levels that are shown. -/
def rank (limit : Limit) : Nat :=
  limit.elim 0 Level.rank

/-- Whether entries of a level are shown. -/
def shows (limit : Limit) (level : Level) : Bool :=
  level.rank ≤ limit.rank

def name : Limit → String
  | none => "off"
  | some .error => "error"
  | some .warn => "warn"
  | some .info => "info"
  | some .debug => "debug"
  | some .trace => "trace"

/-- The limit that shows `rank` levels. -/
def ofRank : Nat → Limit
  | 0 => none
  | 1 => some .error
  | 2 => some .warn
  | 3 => some .info
  | 4 => some .debug
  | _ => some .trace

end Limit

/-- The form of a line. -/
inductive Format
  | pretty
  | compact
  | json
  deriving DecidableEq

def Format.name : Format → String
  | pretty => "Pretty"
  | compact => "Compact"
  | json => "Json"

structure Settings where
  limit : Limit
  /-- Whether directives from the environment take the place of the limit. -/
  usesEnvironment : Bool
  timestamps : Bool
  targets : Bool
  /-- Whether the end of a span is reported. -/
  spans : Bool
  ansi : Bool
  format : Format
  /-- The file that lines are added to, instead of standard error. -/
  file : Option String

namespace Settings

def standard : Settings :=
  { limit := some .warn
    usesEnvironment := true
    timestamps := false
    targets := false
    spans := true
    ansi := true
    format := .pretty
    file := none }

/-- The settings for a number of requests for more detail. -/
def ofVerbosity (count : Nat) : Settings :=
  { standard with limit := Limit.ofRank (2 + count) }

end Settings

end CounterTables.Log
