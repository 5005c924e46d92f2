import CounterTables.Document.Field

/-!
# The architecture's list of events

A list of events of the architecture is an array under the key `events`, one
object per event with its name and code. An entry without a usable name goes by
its place in the list.

## Main definitions

* `readArchitecture` — the events in order, and what was left out.
-/

namespace CounterTables.Document

structure Architecture where
  events : List Event
  skipped : List Skipped

/-- The name an entry goes by while it has none of its own. -/
def placeName (index : Nat) : String :=
  s!"#{index}"

/-- The name of an entry, which may not be empty. -/
def entryName (record : Json.Fields) : Except Reason String :=
  (requiredText record "name").bind fun name =>
    if name = "" then .error .emptyName else .ok name

/-- The event of the entry at `index`, or the name to report it under and the
reason. -/
def readListed (index : Nat) (entry : Json) : Except (String × Reason) Event :=
  match (asObject entry).bind fun record =>
      (entryName record).map fun name => (name, record) with
  | .error reason => .error (placeName index, reason)
  | .ok (name, record) =>
      match eventCode record with
      | .ok code => .ok ⟨name, code, "", ""⟩
      | .error reason => .error (name, reason)

/-- The entries with their places. -/
def readList (entries : List Json) : List (Except (String × Reason) Event) :=
  entries.zipIdx.map fun (entry, index) => readListed index entry

/-- The events of the document called `source`, and what was left out. -/
def readArchitecture (source : String) (document : Json) : Architecture :=
  let report (name : String) (reason : Reason) : Skipped :=
    ⟨source, .event, name, reason⟩
  let listed :=
    match document with
    | .object fields => Json.Fields.get? fields "events"
    | _ => none
  match listed with
  | none => ⟨[], []⟩
  | some (.array entries) =>
      let outcomes := readList entries
      { events := outcomes.filterMap Except.toOption
        skipped := outcomes.filterMap fun
          | .ok _ => none
          | .error (name, reason) => some (report name reason) }
  | some other => ⟨[], [report "events" (.sectionNotArray other.kindName)]⟩

end CounterTables.Document
