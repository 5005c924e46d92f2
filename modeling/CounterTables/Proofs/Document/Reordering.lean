import Mathlib
import CounterTables.Layout.Table
import CounterTables.Proofs.Document.Division
import CounterTables.Proofs.Json.Rearrangement
import CounterTables.Proofs.Layout.Alignment

/-!
# Documents in another order

A section is found by its key, a field of a record by its name, attributes are
sorted, and a column is as wide as its widest entry. So the order of keys in a
document matters in one place only: the records of a section come in the order
of its entries.

`Reordered` says of two documents that they differ in order only. Its parameter
says whether the entries of the sections may change places too, or have to stay
where they are. Keys have to be found in one place only, as in every document
that is loaded (`Document.wellKeyed_of_parse`).

## Main results

* `readEntry_congr` — a record does not depend on the order of its fields.
* `readConfiguration_reordered` — nor a configuration on that of its keys.
* `Layout.measure_perm` — nor the widths on the order of records.
* `readProduct_reordered` — the tables of a document in another order.
-/

namespace CounterTables

open CounterTables.Json (Alike)
open CounterTables.Json.Fields (Matched Rearranged)

/-! ## Widths -/

namespace Layout

theorem widest_perm {entries entries' : List String} (h : entries.Perm entries') :
    widest entries = widest entries' := by
  have hle : ∀ {texts texts' : List String}, texts.Perm texts' →
      widest texts ≤ widest texts' := by
    intro texts texts' hperm
    obtain ⟨hstart, hentries⟩ :=
      foldl_max_escapedLength_le_iff.1 (Nat.le_refl (widest texts'))
    exact foldl_max_escapedLength_le_iff.2
      ⟨hstart, fun entry hentry => hentries entry (hperm.mem_iff.1 hentry)⟩
  exact Nat.le_antisymm (hle h) (hle h.symm)

theorem columnWidth_perm {entries entries' : List String} (h : entries.Perm entries') :
    columnWidth entries = columnWidth entries' := by
  rw [columnWidth, columnWidth, widest_perm h]

/-- The order of records does not matter to the widths of columns. -/
theorem measure_perm {tables tables' : ProductTables}
    (hevents : tables.events.Perm tables'.events)
    (hmetrics : tables.metrics.Perm tables'.metrics)
    (hgroups : tables.groups.Perm tables'.groups) :
    Widths.measure tables = Widths.measure tables' := by
  have hnames := columnWidth_perm
    (hevents.flatMap_right fun event => [event.upperName, event.lowerName])
  have hmetric : ∀ column : Metric → String,
      columnWidth (tables.metrics.map column) =
        columnWidth (tables'.metrics.map column) :=
    fun column => columnWidth_perm (hmetrics.map column)
  have hgroup : ∀ column : MetricGroup → String,
      columnWidth (tables.groups.map column) =
        columnWidth (tables'.groups.map column) :=
    fun column => columnWidth_perm (hgroups.map column)
  simp only [Widths.measure, EventWidths.measure, MetricWidths.measure,
    GroupWidths.measure, hnames, hmetric, hgroup]

end Layout

namespace Document

/-! ## Documents that differ in order -/

/-- Fields of a record, or attributes, in any order. -/
def SameRecord : Json → Json → Prop :=
  Alike List.Perm

/-- Sections with the same entries, `order` saying in which order they come. -/
def SameSection (order : Json.Fields → Json.Fields → Prop) : Json → Json → Prop :=
  Alike (Rearranged order fun _ => SameRecord)

/-- Groups that have the same section inside, among other keys in any order. -/
def SameGroups (order : Json.Fields → Json.Fields → Prop) : Json → Json → Prop :=
  Alike (Rearranged List.Perm fun key =>
    if key = "metrics" then SameSection order else Eq)

/-- The same sections and other keys in any order. -/
def Reordered (order : Json.Fields → Json.Fields → Prop) :
    Json.Fields → Json.Fields → Prop :=
  Rearranged List.Perm fun key =>
    if key = "product_configuration" then SameRecord
    else if key = "events" ∨ key = "metrics" then SameSection order
    else if key = "groups" then SameGroups order
    else Eq

section Sections

variable {order : Json.Fields → Json.Fields → Prop} {document document' : Json.Fields}
  (h : Reordered order document document') (hkeys : document.Distinct)

include h hkeys

theorem Reordered.configuration :
    Option.Rel SameRecord (document.get? "product_configuration")
      (document'.get? "product_configuration") := by
  simpa using Rearranged.get? h hkeys "product_configuration"

theorem Reordered.events :
    Option.Rel (SameSection order) (document.get? "events")
      (document'.get? "events") := by
  simpa using Rearranged.get? h hkeys "events"

theorem Reordered.metrics :
    Option.Rel (SameSection order) (document.get? "metrics")
      (document'.get? "metrics") := by
  simpa using Rearranged.get? h hkeys "metrics"

theorem Reordered.groups :
    Option.Rel (SameGroups order) (document.get? "groups")
      (document'.get? "groups") := by
  simpa using Rearranged.get? h hkeys "groups"

end Sections

/-! ## Records -/

/-- What is built from a record is built from the values of its fields. -/
def ByValue {α : Type} (build : String → Json.Fields → Except Reason α) : Prop :=
  ∀ name record record', (∀ key, Json.Fields.get? record key = record'.get? key) →
    build name record = build name record'

theorem byValue_buildEvent : ByValue buildEvent := by
  intro name record record' h
  simp only [buildEvent, eventCode, optionalText, h]

theorem byValue_buildMetric : ByValue buildMetric := by
  intro name record record' h
  simp only [buildMetric, requiredText, optionalNames, optionalText, h]

theorem byValue_buildGroup : ByValue buildGroup := by
  intro name record record' h
  simp only [buildGroup, optionalNames, optionalText, h]

section Entries

variable {α : Type} {build : String → Json.Fields → Except Reason α}
  (hbuild : ByValue build)

include hbuild

/-- A record does not depend on the order of its fields. -/
theorem readEntry_congr {value value' : Json} (h : SameRecord value value')
    (hkeys : value.WellKeyed) (key : String) :
    readEntry build (key, value) = readEntry build (key, value') := by
  cases h with
  | refl => rfl
  | @object fields fields' hperm =>
      have hsame : build key fields = build key fields' :=
        hbuild key fields fields' (Json.Fields.get?_perm hkeys.distinct hperm)
      unfold readEntry
      split
      · rfl
      · exact hsame

/-- Entries that match give the same records and the same reports. -/
theorem kept_and_skipped_matched (product : String) (kind : RecordKind)
    {entries entries' : Json.Fields}
    (h : Matched (fun _ => SameRecord) entries entries')
    (hkeys : ∀ entry ∈ entries, entry.2.WellKeyed) :
    kept (readEntry build) entries = kept (readEntry build) entries' ∧
      skipped product kind (readEntry build) entries =
        skipped product kind (readEntry build) entries' := by
  induction h with
  | nil => exact ⟨rfl, rfl⟩
  | @cons entry entry' rest rest' hentry _ ih =>
      obtain ⟨key, value⟩ := entry
      obtain ⟨key', value'⟩ := entry'
      obtain ⟨rfl, hvalue⟩ := hentry
      obtain ⟨hfirst, hrest⟩ := List.forall_mem_cons.1 hkeys
      obtain ⟨hkept, hskipped⟩ := ih hrest
      have hread := readEntry_congr hbuild hvalue hfirst key
      unfold kept at hkept ⊢
      unfold skipped at hskipped ⊢
      rw [List.filterMap_cons, List.filterMap_cons, List.filterMap_cons,
        List.filterMap_cons, hread, hkept, hskipped]
      exact ⟨rfl, rfl⟩

end Entries

/-! ### The order of records -/

/-- The keys of a section. -/
def keysOf : Option Json → List String
  | some (.object fields) => fields.map Prod.fst
  | _ => []

/-- The records in the order of their names in a list. -/
def inOrder {α : Type} (name : α → String) (keys : List String) (records : List α) :
    List α :=
  keys.filterMap fun key => records.find? fun record => name record = key

section Names

variable {α : Type} {read : String × Json → Except Reason α} {name : α → String}
  (hname : ∀ entry record, read entry = .ok record → name record = entry.1)

include hname

/-- If keys are distinct, the record of an entry is the one with its key. -/
theorem find?_kept {entries : Json.Fields} (h : entries.Distinct)
    {entry : String × Json} (hentry : entry ∈ entries) :
    (kept read entries).find? (fun record => name record = entry.1) =
      (read entry).toOption := by
  induction entries with
  | nil => cases hentry
  | cons first rest ih =>
      obtain ⟨hnew, hrest⟩ := List.nodup_cons.1 h
      rcases List.mem_cons.1 hentry with rfl | hlater
      · have hothers : ∀ record ∈ kept read rest, name record ≠ entry.1 := by
          intro record hrecord heq
          obtain ⟨other, hother, hread⟩ := List.mem_filterMap.1 hrecord
          have hok : read other = .ok record := by
            cases hresult : read other with
            | ok found =>
                rw [hresult] at hread; exact congrArg _ (Option.some.inj hread)
            | error reason => rw [hresult] at hread; cases hread
          have hkey : other.1 = entry.1 := (hname other record hok).symm.trans heq
          exact hnew (hkey ▸ List.mem_map_of_mem hother)
        cases hread : read entry with
        | ok record =>
            have hrecord : name record = entry.1 := hname entry record hread
            rw [kept_cons_of_ok hread, List.find?_cons_of_pos (by simpa using hrecord)]
            rfl
        | error reason =>
            rw [kept_cons_of_error hread, List.find?_eq_none.2 (by simpa using hothers)]
            rfl
      · have hne : first.1 ≠ entry.1 := by
          intro heq
          exact hnew (heq ▸ List.mem_map_of_mem hlater)
        cases hread : read first with
        | ok record =>
            have hrecord : name record ≠ entry.1 := by
              rw [hname first record hread]
              exact hne
            rw [kept_cons_of_ok hread, List.find?_cons_of_neg (by simpa using hrecord),
              ih hrest hlater]
        | error reason =>
            rw [kept_cons_of_error hread, ih hrest hlater]

/-- The records of entries in another order are those records in that order. -/
theorem kept_eq_inOrder {entries entries' : Json.Fields} (h : entries.Distinct)
    (hperm : entries.Perm entries') :
    kept read entries' = inOrder name (entries'.map Prod.fst) (kept read entries) := by
  unfold inOrder
  rw [List.filterMap_map]
  refine List.filterMap_congr fun entry hentry => ?_
  exact (find?_kept hname h (hperm.mem_iff.2 hentry)).symm

end Names

/-- The same records, in the order in which a section has its keys. -/
structure SameRecords {α : Type} (name : α → String) (keys : List String)
    (records records' : List α) : Prop where
  perm : records'.Perm records
  order : records' = inOrder name keys records

theorem sameRecords_nil {α : Type} (name : α → String) (keys : List String) :
    SameRecords name keys [] [] := by
  refine ⟨List.Perm.refl [], ?_⟩
  simp [inOrder]

/-! ## Sections -/

section Sections

variable {α : Type} (product : String) (kind : RecordKind) (sectionName : String)
  {build : String → Json.Fields → Except Reason α} (hbuild : ByValue build)
  {value value' : Option Json} (hvalue : ∀ found, value = some found → found.WellKeyed)

include hbuild hvalue

theorem readRecords_sameOrder (h : Option.Rel (SameSection Eq) value value') :
    readRecords product kind sectionName build value' =
      readRecords product kind sectionName build value := by
  cases h with
  | none => rfl
  | some h =>
      cases h with
      | refl => rfl
      | @object entries entries' hentries =>
          obtain ⟨between, hmatched, rfl⟩ := hentries
          have hkeys := (Json.wellKeyed_object_iff.1 (hvalue _ rfl)).2
          obtain ⟨hkept, hskipped⟩ :=
            kept_and_skipped_matched hbuild product kind hmatched hkeys
          exact (Prod.ext hkept hskipped).symm

theorem readRecords_reordered {name : α → String}
    (hname : ∀ key fields record, build key fields = .ok record → name record = key)
    (h : Option.Rel (SameSection List.Perm) value value') :
    SameRecords name (keysOf value')
        (readRecords product kind sectionName build value).1
        (readRecords product kind sectionName build value').1 ∧
      (readRecords product kind sectionName build value').2.Perm
        (readRecords product kind sectionName build value).2 := by
  -- what holds of two objects, which may be the same one
  have hobject : ∀ entries entries' : Json.Fields, (Json.object entries).WellKeyed →
      Rearranged List.Perm (fun _ => SameRecord) entries entries' →
      SameRecords name (entries'.map Prod.fst) (kept (readEntry build) entries)
          (kept (readEntry build) entries') ∧
        (skipped product kind (readEntry build) entries').Perm
          (skipped product kind (readEntry build) entries) := by
    rintro entries entries' hkeys ⟨between, hmatched, hperm⟩
    obtain ⟨hdistinct, hvalues⟩ := Json.wellKeyed_object_iff.1 hkeys
    obtain ⟨hkept, hskipped⟩ :=
      kept_and_skipped_matched hbuild product kind hmatched hvalues
    have hbetween : between.Distinct := by
      unfold Json.Fields.Distinct
      rw [← hmatched.keys_eq]
      exact hdistinct
    rw [hkept, hskipped]
    have horder := kept_eq_inOrder (name_of_readEntry hname) hbetween hperm
    exact ⟨⟨hperm.symm.filterMap _, horder⟩, hperm.symm.filterMap _⟩
  cases h with
  | none => exact ⟨sameRecords_nil name _, List.Perm.refl []⟩
  | @some found found' h =>
      cases h with
      | @object entries entries' hentries => exact hobject _ _ (hvalue _ rfl) hentries
      | refl =>
          cases found with
          | object entries =>
              refine hobject _ _ (hvalue _ rfl) ⟨entries, ?_, List.Perm.refl _⟩
              exact List.forall₂_same.2 fun entry _ => ⟨rfl, .refl entry.2⟩
          | _ => exact ⟨sameRecords_nil name _, List.Perm.refl _⟩

end Sections

/-- A configuration does not depend on the order of its keys. -/
theorem readConfiguration_reordered (product : String) {value value' : Option Json}
    (hvalue : ∀ entries, value = some (.object entries) → Json.Fields.Distinct entries)
    (h : Option.Rel SameRecord value value') :
    (readConfiguration product value').1 = (readConfiguration product value).1 ∧
      (readConfiguration product value').2.Perm
        (readConfiguration product value).2 := by
  cases h with
  | none => exact ⟨rfl, List.Perm.refl _⟩
  | some h =>
      cases h with
      | refl => exact ⟨rfl, List.Perm.refl _⟩
      | @object entries entries' hperm =>
          have hdivided := divided_kept_skipped product .configuration
            (fun _ _ => key_of_readAttribute) entries
          have hnodup : ((kept readAttribute entries).map Prod.fst).Nodup :=
            hdivided.names_sublist.nodup (hvalue entries rfl)
          have hset := Configuration.foldl_set_perm product hnodup (hperm.filterMap _)
          exact ⟨congrArg some hset.symm, hperm.symm.filterMap _⟩

/-- The section `metrics` inside the groups. -/
def groupSection : Option Json → Option Json
  | some (.object fields) => Json.Fields.get? fields "metrics"
  | _ => none

section Groups

variable {order : Json.Fields → Json.Fields → Prop} {value value' : Option Json}
  (hvalue : ∀ found, value = some found → found.WellKeyed)

include hvalue

/-- The same groups are one value that is no object, or two objects with the
same section inside. -/
theorem groups_cases (h : Option.Rel (SameGroups order) value value') :
    (value' = value ∧ ∀ fields, value ≠ some (.object fields)) ∨
      ∃ fields fields' : Json.Fields, value = some (.object fields) ∧
        value' = some (.object fields') ∧
        Option.Rel (SameSection order) (fields.get? "metrics")
          (fields'.get? "metrics") := by
  cases h with
  | none => exact .inl ⟨rfl, nofun⟩
  | @some found found' h =>
      cases h with
      | @object fields fields' hfields =>
          refine .inr ⟨fields, fields', rfl, rfl, ?_⟩
          simpa using hfields.get? (hvalue _ rfl).distinct "metrics"
      | refl =>
          cases found with
          | object fields =>
              refine .inr ⟨fields, fields, rfl, rfl, ?_⟩
              cases Json.Fields.get? fields "metrics" with
              | none => exact .none
              | some inner => exact .some (.refl inner)
          | _ => exact .inl ⟨rfl, nofun⟩

theorem readGroups_sameOrder (product : String)
    (h : Option.Rel (SameGroups Eq) value value') :
    readGroups product value' = readGroups product value := by
  rcases groups_cases hvalue h with ⟨rfl, -⟩ | ⟨fields, fields', rfl, rfl, hinner⟩
  · rfl
  · exact readRecords_sameOrder product .group "groups.metrics" byValue_buildGroup
      (fun _ hget => (hvalue _ rfl).of_get? hget) hinner

theorem readGroups_reordered (product : String)
    (h : Option.Rel (SameGroups List.Perm) value value') :
    SameRecords MetricGroup.name (keysOf (groupSection value'))
        (readGroups product value).1 (readGroups product value').1 ∧
      (readGroups product value').2.Perm (readGroups product value).2 := by
  rcases groups_cases hvalue h with ⟨rfl, hnone⟩ | ⟨fields, fields', rfl, rfl, hinner⟩
  · cases value' with
    | none => exact ⟨sameRecords_nil _ _, List.Perm.refl _⟩
    | some found =>
        cases found with
        | object fields => exact absurd rfl (hnone fields)
        | _ => exact ⟨sameRecords_nil _ _, List.Perm.refl _⟩
  · exact readRecords_reordered product .group "groups.metrics" byValue_buildGroup
      (fun _ hget => (hvalue _ rfl).of_get? hget)
      (fun _ _ _ => name_of_buildGroup) hinner

end Groups

/-! ## Documents -/

/-- The tables of a document with the entries of its sections in another order:
the records of each kind are the same, in the order of its keys. -/
structure TablesReordered (document : Json.Fields) (tables tables' : ProductTables) :
    Prop where
  product : tables'.product = tables.product
  config : tables'.config = tables.config
  events : SameRecords Event.name (keysOf (document.get? "events"))
    tables.events tables'.events
  metrics : SameRecords Metric.name (keysOf (document.get? "metrics"))
    tables.metrics tables'.metrics
  groups : SameRecords MetricGroup.name (keysOf (groupSection (document.get? "groups")))
    tables.groups tables'.groups

/-- **The order of a document matters to the order of records only.** Two
documents that differ in the order of keys and of the fields of records, but
have the entries of each section in one order, describe the same tables, and
what is left out of them is the same up to order. If the entries are in another
order as well, so are the records, and the configuration and the widths of all
columns are the same. -/
theorem readProduct_reordered (product : String) {document document' : Json.Fields}
    (h : (Json.object document).WellKeyed) :
    let reading := readProduct product document
    let reading' := readProduct product document'
    (Reordered Eq document document' →
      reading'.tables = reading.tables ∧
        Layout.Widths.measure reading'.tables = Layout.Widths.measure reading.tables ∧
        reading'.skipped.Perm reading.skipped ∧
        Layout.render (Layout.productLines reading'.tables) =
          Layout.render (Layout.productLines reading.tables)) ∧
    (Reordered List.Perm document document' →
      TablesReordered document' reading.tables reading'.tables ∧
        Layout.Widths.measure reading'.tables = Layout.Widths.measure reading.tables ∧
        reading'.skipped.Perm reading.skipped) := by
  dsimp only
  have hdistinct : document.Distinct := h.distinct
  constructor
  · intro hsame
    obtain ⟨hconfig, hnoConfig⟩ := readConfiguration_reordered product
      (fun _ => h.distinct_of_get?) (hsame.configuration hdistinct)
    have hevents := readRecords_sameOrder product .event "events" byValue_buildEvent
      (fun _ => h.of_get?) (hsame.events hdistinct)
    have hmetrics := readRecords_sameOrder product .metric "metrics" byValue_buildMetric
      (fun _ => h.of_get?) (hsame.metrics hdistinct)
    have hgroups := readGroups_sameOrder (fun _ => h.of_get?) product
      (hsame.groups hdistinct)
    have htables : (readProduct product document').tables =
        (readProduct product document).tables := by
      simp only [readProduct, hconfig, hevents, hmetrics, hgroups]
    refine ⟨htables, by rw [htables], ?_, by rw [htables]⟩
    simp only [readProduct, hevents, hmetrics, hgroups]
    exact ((hnoConfig.append_right _).append_right _).append_right _
  · intro hsame
    obtain ⟨hconfig, hnoConfig⟩ := readConfiguration_reordered product
      (fun _ => h.distinct_of_get?) (hsame.configuration hdistinct)
    obtain ⟨hevents, hnoEvents⟩ := readRecords_reordered product .event "events"
      byValue_buildEvent (fun _ => h.of_get?) (fun _ _ _ => name_of_buildEvent)
      (hsame.events hdistinct)
    obtain ⟨hmetrics, hnoMetrics⟩ := readRecords_reordered product .metric "metrics"
      byValue_buildMetric (fun _ => h.of_get?) (fun _ _ _ => name_of_buildMetric)
      (hsame.metrics hdistinct)
    obtain ⟨hgroups, hnoGroups⟩ := readGroups_reordered (fun _ => h.of_get?) product
      (hsame.groups hdistinct)
    refine ⟨⟨rfl, hconfig, hevents, hmetrics, hgroups⟩, ?_, ?_⟩
    · exact Layout.measure_perm hevents.perm hmetrics.perm hgroups.perm
    · exact ((hnoConfig.append hnoEvents).append hnoMetrics).append hnoGroups

/-- Two records among other keys. -/
def pairDocument (first second : String × Json) : Json.Fields :=
  [("events", .object [first, second]), ("version", .string "1")]

/-- Two records among other keys, which come first. -/
def turnedDocument (first second : String × Json) : Json.Fields :=
  [("version", .string "1"), ("events", .object [first, second])]

theorem pairDocument_turned :
    let stall : Json.Fields := [("code", .string "0x23"), ("title", .string "Stall")]
    let stall' : Json.Fields := [("title", .string "Stall"), ("code", .string "0x23")]
    let cycles : String × Json := ("CYCLES", .object [("code", .string "17")])
    let document := pairDocument ("STALL", .object stall) cycles
    let turned := turnedDocument ("STALL", .object stall') cycles
    let swapped := turnedDocument cycles ("STALL", .object stall')
    (Json.object document).WellKeyed ∧
      Reordered Eq document turned ∧ Reordered List.Perm document swapped ∧
      (readProduct "n1" turned).tables = (readProduct "n1" document).tables ∧
      TablesReordered swapped (readProduct "n1" document).tables
        (readProduct "n1" swapped).tables := by
  intro stall stall' cycles document turned swapped
  have hkeys : (Json.object document).WellKeyed := by
    simp [document, pairDocument, stall, cycles, Json.Fields.Distinct]
  have hstall : SameRecord (.object stall) (.object stall') :=
    .object (List.Perm.swap _ _ _)
  have hentries : Matched (fun _ => SameRecord) [("STALL", .object stall), cycles]
      [("STALL", .object stall'), cycles] :=
    .cons ⟨rfl, hstall⟩ (.cons ⟨rfl, .refl _⟩ .nil)
  have hdocument : ∀ {order : Json.Fields → Json.Fields → Prop} {entries : Json.Fields},
      order [("STALL", .object stall'), cycles] entries →
        Reordered order document [("version", .string "1"),
          ("events", .object entries)] := by
    intro order entries horder
    have hevents : SameSection order (.object [("STALL", .object stall), cycles])
        (.object entries) := .object ⟨_, hentries, horder⟩
    refine ⟨[("events", .object entries), ("version", .string "1")], ?_,
      List.Perm.swap _ _ _⟩
    exact .cons ⟨rfl, by simpa using hevents⟩ (.cons ⟨rfl, by simp⟩ .nil)
  have hturned : Reordered Eq document turned := hdocument rfl
  have hswapped : Reordered List.Perm document swapped :=
    hdocument (List.Perm.swap _ _ _)
  have hsame := (readProduct_reordered "n1" hkeys).1 hturned
  have hother := (readProduct_reordered "n1" hkeys).2 hswapped
  exact ⟨hkeys, hturned, hswapped, hsame.1, hother.1⟩

end Document

end CounterTables
