import Mathlib
import CounterTables.Document.Architecture
import CounterTables.Proofs.Document.Division
import CounterTables.Proofs.Record.CodeText

/-!
# The entries of a list of events

A list of events has no keys, so an entry must name itself, and one that does
not goes by its place. What an entry comes to is said here without reading it:
`ListedAs` by the event that its own name and code make, `NotedAs` by the first
thing that it lacks. No entry comes to both, or to two of one kind, so the
division of a list is determined by its entries.

Names need not be distinct here, and the codes of two entries may be the same;
each entry counts for itself.

## Main results

* `entryName_eq_ok_iff`, `eventCode_eq_ok_iff` — what makes a name and a code.
* `readListed_cases` — the step: an entry becomes an event or is reported.
* `Divided.unique` — a list is divided in one way only.
* `listAccounted_iff` — what a document's list of events comes to.
-/

namespace CounterTables.Document

open CounterTables.EventCode (IsNumeral parse_eq_ok_iff ofInt_eq_ok_iff)
open CounterTables.Text (trim)

/-! ## Names and codes -/

/-- The entry has this name, a text that is not empty. -/
structure HasName (record : Json.Fields) (name : String) : Prop where
  get?_eq : record.get? "name" = some (.string name)
  ne_empty : name ≠ ""

/-- The entry has this code: as a whole number, or as text with its numeral. -/
inductive HasCode (record : Json.Fields) (code : EventCode) : Prop
  | number (h : record.get? "code" = some (.number (.integer code.value)))
  | numeral {text : String} (h : record.get? "code" = some (.string text))
      (hnumeral : IsNumeral (trim text.toList) code.value)

theorem requiredText_eq_ok_iff {record : Json.Fields} {field text : String} :
    requiredText record field = .ok text ↔ record.get? field = some (.string text) := by
  unfold requiredText
  split <;> simp_all

theorem entryName_eq_ok_iff {record : Json.Fields} {name : String} :
    entryName record = .ok name ↔ HasName record name := by
  rw [entryName, bind_eq_ok_iff]
  constructor
  · rintro ⟨text, htext, hname⟩
    split at hname
    case isTrue => cases hname
    case isFalse hne =>
        obtain rfl := Except.ok.inj hname
        exact ⟨requiredText_eq_ok_iff.1 htext, hne⟩
  · intro h
    exact ⟨name, requiredText_eq_ok_iff.2 h.get?_eq, if_neg h.ne_empty⟩

theorem eventCode_eq_ok_iff {record : Json.Fields} {code : EventCode} :
    eventCode record = .ok code ↔ HasCode record code := by
  constructor
  · intro h
    unfold eventCode at h
    split at h
    case h_3 text htext =>
        rw [mapError_eq_ok_iff, parse_eq_ok_iff] at h
        exact .numeral htext h
    case h_4 value hvalue =>
        rw [mapError_eq_ok_iff, ofInt_eq_ok_iff] at h
        exact .number (h ▸ hvalue)
    all_goals cases h
  · rintro (h | ⟨h, hnumeral⟩)
    · simp only [eventCode, h]
      rw [mapError_eq_ok_iff, ofInt_eq_ok_iff]
    · simp only [eventCode, h]
      rw [mapError_eq_ok_iff, parse_eq_ok_iff]
      exact hnumeral

theorem HasName.unique {record : Json.Fields} {name other : String}
    (h : HasName record name) (h' : HasName record other) : name = other :=
  Except.ok.inj ((entryName_eq_ok_iff.2 h).symm.trans (entryName_eq_ok_iff.2 h'))

theorem HasCode.unique {record : Json.Fields} {code other : EventCode}
    (h : HasCode record code) (h' : HasCode record other) : code = other :=
  Except.ok.inj ((eventCode_eq_ok_iff.2 h).symm.trans (eventCode_eq_ok_iff.2 h'))

/-! ## Entries -/

/-- The entries of a list, each with the name of its place; the first has this
index. -/
def placedFrom (index : Nat) (entries : List Json) : List (String × Json) :=
  (entries.zipIdx index).map fun entry => (placeName entry.2, entry.1)

/-- The entry makes this event: an object with the name and the code of the
event, the other texts of which are empty. -/
inductive ListedAs : String × Json → Event → Prop
  | intro {place name : String} {record : Json.Fields} {code : EventCode}
      (hname : HasName record name) (hcode : HasCode record code) :
      ListedAs (place, .object record) ⟨name, code, "", ""⟩

/-- The entry makes this report. It goes by its place unless it has a name. -/
inductive NotedAs (source : String) : String × Json → Skipped → Prop
  | notObject {place : String} {value : Json}
      (hvalue : ∀ record, value ≠ .object record) :
      NotedAs source (place, value) ⟨source, .event, place, .notObject value.kindName⟩
  | unnamed {place : String} {record : Json.Fields} {reason : Reason}
      (hname : ∀ name, ¬HasName record name)
      (hreason : entryName record = .error reason) :
      NotedAs source (place, .object record) ⟨source, .event, place, reason⟩
  | codeless {place name : String} {record : Json.Fields} {reason : Reason}
      (hname : HasName record name) (hcode : ∀ code, ¬HasCode record code)
      (hreason : eventCode record = .error reason) :
      NotedAs source (place, .object record) ⟨source, .event, name, reason⟩

theorem ListedAs.unique {entry : String × Json} {event other : Event}
    (h : ListedAs entry event) (h' : ListedAs entry other) : event = other := by
  cases h with
  | intro hname hcode =>
      cases h' with
      | intro hname' hcode' => rw [hname.unique hname', hcode.unique hcode']

theorem NotedAs.unique {source : String} {entry : String × Json}
    {report other : Skipped} (h : NotedAs source entry report)
    (h' : NotedAs source entry other) :
    report = other := by
  cases h with
  | notObject hvalue =>
      cases h' with
      | notObject => rfl
      | unnamed => exact absurd rfl (hvalue _)
      | codeless => exact absurd rfl (hvalue _)
  | unnamed hname hreason =>
      cases h' with
      | notObject hvalue => exact absurd rfl (hvalue _)
      | unnamed _ hreason' => rw [Except.error.inj (hreason.symm.trans hreason')]
      | codeless hname' => exact absurd hname' (hname _)
  | codeless hname _ hreason =>
      cases h' with
      | notObject hvalue => exact absurd rfl (hvalue _)
      | unnamed hname' => exact absurd hname (hname' _)
      | codeless hname' _ hreason' =>
          rw [hname.unique hname', Except.error.inj (hreason.symm.trans hreason')]

theorem ListedAs.not_notedAs {source : String} {entry : String × Json} {event : Event}
    {report : Skipped} (h : ListedAs entry event) : ¬NotedAs source entry report := by
  intro hnoted
  cases h with
  | intro hname hcode =>
      cases hnoted with
      | notObject hvalue => exact hvalue _ rfl
      | unnamed hname' => exact hname' _ hname
      | codeless _ hcode' => exact hcode' _ hcode

/-- What is reported of an entry, unless it is read. -/
def noteOf (source : String) : Except (String × Reason) Event → Option Skipped
  | .ok _ => none
  | .error (name, reason) => some ⟨source, .event, name, reason⟩

/-- An entry becomes an event, or there is a report on it. -/
theorem readListed_cases (source : String) (index : Nat) (entry : Json) :
    (∃ event, readListed index entry = .ok event ∧
      ListedAs (placeName index, entry) event) ∨
    ∃ name reason, readListed index entry = .error (name, reason) ∧
      NotedAs source (placeName index, entry) ⟨source, .event, name, reason⟩ := by
  unfold readListed
  cases hobject : asObject entry with
  | error reason =>
      have hentry : ∀ record, entry ≠ .object record := by
        rintro record rfl
        cases hobject
      have hreason : reason = .notObject entry.kindName := by
        cases entry <;> cases hobject <;> rfl
      subst hreason
      exact .inr ⟨_, _, rfl, .notObject hentry⟩
  | ok record =>
      obtain rfl := asObject_eq_ok_iff.1 hobject
      cases hname : entryName record with
      | error reason =>
          have hnone : ∀ name, ¬HasName record name := by
            intro name h
            cases hname.symm.trans (entryName_eq_ok_iff.2 h)
          refine .inr ⟨_, _, ?_, .unnamed hnone hname⟩
          simp [Except.bind, Except.map, hname]
      | ok name =>
          have hhas := entryName_eq_ok_iff.1 hname
          cases hcode : eventCode record with
          | ok code =>
              refine .inl ⟨_, ?_, .intro hhas (eventCode_eq_ok_iff.1 hcode)⟩
              simp [Except.bind, Except.map, hname, hcode]
          | error reason =>
              have hnone : ∀ code, ¬HasCode record code := by
                intro code h
                cases hcode.symm.trans (eventCode_eq_ok_iff.2 h)
              refine .inr ⟨_, _, ?_, .codeless hhas hnone hcode⟩
              simp [Except.bind, Except.map, hname, hcode]

/-! ## Lists -/

/-- What the entries come to, one by one; the first has this index. -/
def outcomesFrom (index : Nat) (entries : List Json) :
    List (Except (String × Reason) Event) :=
  (entries.zipIdx index).map fun entry => readListed entry.2 entry.1

theorem outcomesFrom_cons (index : Nat) (entry : Json) (rest : List Json) :
    outcomesFrom index (entry :: rest) =
      readListed index entry :: outcomesFrom (index + 1) rest := rfl

theorem divided_outcomesFrom (source : String) (index : Nat) (entries : List Json) :
    Divided ListedAs (NotedAs source) (placedFrom index entries)
      ((outcomesFrom index entries).filterMap Except.toOption)
      ((outcomesFrom index entries).filterMap (noteOf source)) := by
  induction entries generalizing index with
  | nil => exact .nil
  | cons entry rest ih =>
      rw [outcomesFrom_cons]
      rcases readListed_cases source index entry with
        ⟨event, hread, hlisted⟩ | ⟨name, reason, hread, hnoted⟩
      · rw [hread]
        exact .record hlisted (ih (index + 1))
      · rw [hread]
        exact .report hnoted (ih (index + 1))

/-- If an entry comes to one thing only, a list is divided in one way only. -/
theorem Divided.unique {α : Type} {becomes : String × Json → α → Prop}
    {reported : String × Json → Skipped → Prop} {entries : Json.Fields}
    {records records' : List α} {reports reports' : List Skipped}
    (h : Divided becomes reported entries records reports)
    (h' : Divided becomes reported entries records' reports')
    (hbecomes : ∀ {entry a b}, becomes entry a → becomes entry b → a = b)
    (hreported : ∀ {entry r s}, reported entry r → reported entry s → r = s)
    (hapart : ∀ {entry a r}, becomes entry a → ¬reported entry r) :
    records = records' ∧ reports = reports' := by
  induction h generalizing records' reports' with
  | nil =>
      cases h'
      exact ⟨rfl, rfl⟩
  | record hentry _ ih =>
      cases h' with
      | record hentry' hrest' =>
          obtain ⟨rfl, rfl⟩ := ih hrest'
          exact ⟨by rw [hbecomes hentry hentry'], rfl⟩
      | report hentry' _ => exact absurd hentry' (hapart hentry)
  | report hentry _ ih =>
      cases h' with
      | record hentry' _ => exact absurd hentry (hapart hentry')
      | report hentry' hrest' =>
          obtain ⟨rfl, rfl⟩ := ih hrest'
          exact ⟨rfl, by rw [hreported hentry hentry']⟩

/-! ## Documents -/

/-- What the list of a document comes to: nothing if there is none, one report
if it is no array, and else a division of its entries. -/
inductive ListAccounted (source : String) : Json → Architecture → Prop
  | noObject {document : Json} (hdocument : ∀ fields, document ≠ .object fields) :
      ListAccounted source document ⟨[], []⟩
  | absent {fields : Json.Fields} (hlist : fields.get? "events" = none) :
      ListAccounted source (.object fields) ⟨[], []⟩
  | noArray {fields : Json.Fields} {value : Json}
      (hlist : fields.get? "events" = some value)
      (hvalue : ∀ entries, value ≠ .array entries) :
      ListAccounted source (.object fields)
        ⟨[], [⟨source, .event, "events", .sectionNotArray value.kindName⟩]⟩
  | array {fields : Json.Fields} {entries : List Json} {events : List Event}
      {reports : List Skipped} (hlist : fields.get? "events" = some (.array entries))
      (hdivided :
        Divided ListedAs (NotedAs source) (placedFrom 0 entries) events reports) :
      ListAccounted source (.object fields) ⟨events, reports⟩

section Reading

variable {source : String} {fields : Json.Fields}

theorem readArchitecture_noObject {document : Json}
    (h : ∀ fields, document ≠ .object fields) :
    readArchitecture source document = ⟨[], []⟩ := by
  cases document with
  | object fields => exact absurd rfl (h fields)
  | _ => rfl

theorem readArchitecture_absent (h : fields.get? "events" = none) :
    readArchitecture source (.object fields) = ⟨[], []⟩ := by
  simp [readArchitecture, h]

theorem readArchitecture_noArray {value : Json} (h : fields.get? "events" = some value)
    (hvalue : ∀ entries, value ≠ .array entries) :
    readArchitecture source (.object fields) =
      ⟨[], [⟨source, .event, "events", .sectionNotArray value.kindName⟩]⟩ := by
  cases value with
  | array entries => exact absurd rfl (hvalue entries)
  | _ => simp [readArchitecture, h]

theorem readArchitecture_array {entries : List Json}
    (h : fields.get? "events" = some (.array entries)) :
    readArchitecture source (.object fields) =
      ⟨(outcomesFrom 0 entries).filterMap Except.toOption,
        (outcomesFrom 0 entries).filterMap (noteOf source)⟩ := by
  simp only [readArchitecture, h]
  rfl

end Reading

theorem listAccounted_readArchitecture (source : String) (document : Json) :
    ListAccounted source document (readArchitecture source document) := by
  by_cases hdocument : ∃ fields, document = .object fields
  · obtain ⟨fields, rfl⟩ := hdocument
    cases hlist : Json.Fields.get? fields "events" with
    | none =>
        rw [readArchitecture_absent hlist]
        exact .absent hlist
    | some value =>
        by_cases hvalue : ∃ entries, value = .array entries
        · obtain ⟨entries, rfl⟩ := hvalue
          rw [readArchitecture_array hlist]
          exact .array hlist (divided_outcomesFrom source 0 entries)
        · rw [readArchitecture_noArray hlist (not_exists.1 hvalue)]
          exact .noArray hlist (not_exists.1 hvalue)
  · rw [readArchitecture_noObject (not_exists.1 hdocument)]
    exact .noObject (not_exists.1 hdocument)

/-- The list of a document comes to what is read, and to nothing else. -/
theorem listAccounted_iff {source : String} {document : Json} {list : Architecture} :
    ListAccounted source document list ↔ list = readArchitecture source document := by
  constructor
  · intro h
    cases h with
    | noObject hdocument => exact (readArchitecture_noObject hdocument).symm
    | absent hlist => exact (readArchitecture_absent hlist).symm
    | noArray hlist hvalue => exact (readArchitecture_noArray hlist hvalue).symm
    | array hlist hdivided =>
        obtain ⟨hevents, hreports⟩ := hdivided.unique (divided_outcomesFrom source 0 _)
          ListedAs.unique NotedAs.unique ListedAs.not_notedAs
        rw [readArchitecture_array hlist, hevents, hreports]
  · rintro rfl
    exact listAccounted_readArchitecture source document

end CounterTables.Document
