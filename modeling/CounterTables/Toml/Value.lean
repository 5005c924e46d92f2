/-!
# TOML values and how a document is put together

A TOML document is a table. Whole numbers keep their value; fractional numbers
and dates keep the text they are written as.

The entries of a document reach their tables in any order, so tables grow while
the document is read. What may be added to a table depends on how the table came
about: by a header of its own, as a part of the path of another header, or by a
dotted key. Nothing can be added to a value.

## Main definitions

* `Toml` — a value.
* `Draft` — a table while it grows.
* `descend` — follows a path and changes the table at its end.
* `setValue`, `openTable`, `openArray` — the three statements.
* `Draft.finish` — the table when it is complete.
-/

namespace CounterTables

/-! ## Values -/

inductive Toml
  | string (text : String)
  | integer (value : Int)
  | float (text : String)
  | boolean (flag : Bool)
  | datetime (text : String)
  | array (items : List Toml)
  | table (entries : List (String × Toml))

namespace Toml

/-! ## Drafts -/

/-- How a table came about. -/
inductive Origin
  /-- By a header of its own, or as the root. -/
  | header
  /-- As a part of the path of a header. -/
  | implied
  /-- By a dotted key. -/
  | dotted
  deriving DecidableEq

inductive Draft
  /-- A value, to which nothing can be added. -/
  | value (value : Toml)
  | table (origin : Origin) (entries : List (String × Draft))
  /-- The tables of an array of tables, the latest first. -/
  | tables (latest : List (String × Draft)) (before : List (List (String × Draft)))

/-- The entries of a table while it grows. -/
abbrev Entries := List (String × Draft)

/-- The entries with `key` standing for `draft`. -/
def Entries.put (key : String) (draft : Draft) : Entries → Entries
  | [] => [(key, draft)]
  | (k, d) :: rest =>
      if k == key then (key, draft) :: rest else (k, d) :: Entries.put key draft rest

/-! ## Paths -/

/-- Follows `path` from a table and changes the table at its end. Missing tables
are made on the way: by a dotted key as dotted ones, by a header as implied
ones. A dotted key cannot enter a table with a header; an array of tables is
entered at its latest table. -/
def descend (byKey : Bool) (change : Origin → Entries → Option Entries) :
    List String → Origin → Entries → Option Entries
  | [], origin, entries => change origin entries
  | name :: path, _, entries =>
      match entries.lookup name with
      | none =>
          let origin := if byKey then Origin.dotted else .implied
          (descend byKey change path origin []).map fun inner =>
            entries.put name (.table origin inner)
      | some (.value _) => none
      | some (.table origin inner) =>
          if byKey && origin == .header then none
          else
            (descend byKey change path origin inner).map fun inner =>
              entries.put name (.table origin inner)
      | some (.tables latest before) =>
          (descend byKey change path .header latest).map fun latest =>
            entries.put name (.tables latest before)

/-! ## Statements -/

/-- Sets the value of a new key. The tables of a dotted key belong to dotted
keys alone. -/
def setValue (keys : List String) (value : Toml) (entries : Entries) : Option Entries :=
  match keys.reverse with
  | [] => none
  | key :: path =>
      descend true
        (fun origin entries =>
          if path.isEmpty || origin == .dotted then
            match entries.lookup key with
            | none => some (entries.put key (.value value))
            | some _ => none
          else none)
        path.reverse .header entries

/-- Opens the table of a header, which may exist only as an implied one. -/
def openTable (keys : List String) (entries : Entries) : Option Entries :=
  match keys.reverse with
  | [] => none
  | key :: path =>
      descend false
        (fun _ entries =>
          match entries.lookup key with
          | none => some (entries.put key (.table .header []))
          | some (.table .implied inner) =>
              some (entries.put key (.table .header inner))
          | some _ => none)
        path.reverse .header entries

/-- Opens a new table at the end of an array of tables. -/
def openArray (keys : List String) (entries : Entries) : Option Entries :=
  match keys.reverse with
  | [] => none
  | key :: path =>
      descend false
        (fun _ entries =>
          match entries.lookup key with
          | none => some (entries.put key (.tables [] []))
          | some (.tables latest before) =>
              some (entries.put key (.tables [] (latest :: before)))
          | some _ => none)
        path.reverse .header entries

/-- Sets a value in the table that the last header opened. -/
def setValueIn (header : List String) (keys : List String) (value : Toml)
    (entries : Entries) : Option Entries :=
  descend false (fun _ entries => setValue keys value entries) header .header entries

/-! ## Completion -/

mutual

/-- The value of a complete draft. -/
def Draft.finish : Draft → Toml
  | .value value => value
  | .table _ entries => .table (finishEntries entries)
  | .tables latest before =>
      .array (finishTables before [.table (finishEntries latest)])

/-- The entries of a complete table. -/
def finishEntries : List (String × Draft) → List (String × Toml)
  | [] => []
  | (key, draft) :: rest => (key, draft.finish) :: finishEntries rest

/-- The tables of a complete array, before those that are finished already. -/
def finishTables : List (List (String × Draft)) → List Toml → List Toml
  | [], finished => finished
  | entries :: rest, finished =>
      finishTables rest (.table (finishEntries entries) :: finished)

end

end Toml

end CounterTables
