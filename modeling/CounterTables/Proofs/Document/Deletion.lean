import Mathlib
import CounterTables.Layout.Table
import CounterTables.Proofs.Document.Reports

/-!
# Documents without what was left out

What cannot be used is left out and reported, and should leave no other trace:
no width, no empty configuration, no second report. A report tells where in the
document its object is, and that can be deleted. The document that remains when
all that was reported is deleted says the same of the product, and nothing in it
is reported any more. This takes a document that has every key once, as all have
that are loaded (`Document.wellKeyed_of_parse`).

Deleting at a path is followed from the top: a section of the remaining document
is what the reports of one kind leave of the section, and reports on the entries
of one object leave those entries that have no report.

## Main results

* `get?_withoutReported` — the sections of the remaining document.
* `readRecords_remaining` — a section without what was reported of it.
* `readProduct_withoutReported` — the remaining document as a whole.
-/

namespace CounterTables

/-! ## Deleting at a path -/

/-- The value without what is at the end of the path: nothing if the path ends
here, and the value itself if the path leads nowhere. -/
def Json.without : List String → Json → Option Json
  | [], _ => none
  | key :: path, .object fields =>
      some (.object (fields.filterMap fun field =>
        if field.1 = key then (Json.without path field.2).map (field.1, ·)
        else some field))
  | _ :: _, value => some value

/-- The fields without what is at the end of a path from `key`. -/
def Json.Fields.without (fields : Json.Fields) (key : String) (path : List String) :
    Json.Fields :=
  fields.filterMap fun field =>
    if field.1 = key then (Json.without path field.2).map (field.1, ·) else some field

theorem Json.Fields.without_nil (fields : Json.Fields) (key : String) :
    fields.without key [] = fields.filter fun field => field.1 ≠ key := by
  induction fields with
  | nil => rfl
  | cons field rest ih =>
      by_cases hkey : field.1 = key
      · simpa [Json.Fields.without, Json.without, hkey] using ih
      · simpa [Json.Fields.without, Json.without, hkey] using ih

/-- Deleting at a path from one key leaves the values of the others. -/
theorem Json.Fields.get?_without (fields : Json.Fields) (key : String)
    (path : List String) (other : String) :
    (fields.without key path).get? other =
      if other = key then (fields.get? key).bind (Json.without path)
      else fields.get? other := by
  induction fields with
  | nil => simp [Json.Fields.without, Json.Fields.get?]
  | cons field rest ih =>
      obtain ⟨name, value⟩ := field
      by_cases hname : name = key
      · subst hname
        cases hvalue : Json.without path value with
        | none =>
            -- the path ends at the key, so all values of the key go
            have hpath : path = [] := by
              cases path with
              | nil => rfl
              | cons next more => cases value <;> cases hvalue
            subst hpath
            have hgone :
                ∀ found : Option Json, found.bind (Json.without []) = none := by
              intro found
              cases found <;> rfl
            have hrest : Json.Fields.without ((name, value) :: rest) name [] =
                Json.Fields.without rest name [] := by
              simp [Json.Fields.without, hvalue]
            rw [hrest, ih, hgone, hgone, Json.Fields.get?_cons]
            split <;> simp [*]
        | some left =>
            have hrest : Json.Fields.without ((name, value) :: rest) name path =
                (name, left) :: Json.Fields.without rest name path := by
              simp [Json.Fields.without, hvalue]
            rw [hrest, Json.Fields.get?_cons, Json.Fields.get?_cons, ih,
              Json.Fields.get?_cons]
            split <;> simp [*]
      · have hrest : Json.Fields.without ((name, value) :: rest) key path =
            (name, value) :: Json.Fields.without rest key path := by
          simp [Json.Fields.without, hname]
        rw [hrest, Json.Fields.get?_cons, Json.Fields.get?_cons, ih,
          Json.Fields.get?_cons, if_neg (Ne.symm hname)]
        split
        · rename_i hother
          rw [if_neg (hother ▸ hname)]
        · rfl

/-! ## Where a report belongs -/

/-- The key under which a document has the records of a kind. -/
def RecordKind.documentKey : RecordKind → String
  | .configuration => "product_configuration"
  | .event => "events"
  | .metric => "metrics"
  | .group => "groups"

theorem RecordKind.documentKey_inj {kind kind' : RecordKind}
    (h : kind.documentKey = kind'.documentKey) : kind = kind' := by
  cases kind <;> cases kind' <;> first | rfl | exact absurd h (by decide)

/-- The path from a section to what was left out of it: nothing was used of the
section, or all but the entry with this key. -/
def Skipped.entryPath (report : Skipped) : List String :=
  match report.reason with
  | .sectionNotObject _ => []
  | _ => [report.record]

/-- The path from the key of its kind to what the report is about. Groups are a
section inside a section, and only a report on the outer one does not lead into
the inner one. -/
def Skipped.path (report : Skipped) : List String :=
  match report.kind, report.reason with
  | .group, .sectionNotObject _ =>
      if report.record = "groups" then [] else ["metrics"]
  | .group, _ => ["metrics", report.record]
  | _, _ => report.entryPath

/-- The document without everything that is reported. -/
def withoutReported (reports : List Skipped) (document : Json.Fields) : Json.Fields :=
  reports.foldl (fun document report =>
    document.without report.kind.documentKey report.path) document

/-- What reports leave of a value, each deleting at a path of its own. -/
def remaining (path : Skipped → List String) (reports : List Skipped)
    (value : Option Json) : Option Json :=
  reports.foldl (fun value report => value.bind (Json.without (path report))) value

theorem remaining_congr {path path' : Skipped → List String} {reports : List Skipped}
    (h : ∀ report ∈ reports, path report = path' report) (value : Option Json) :
    remaining path reports value = remaining path' reports value := by
  induction reports generalizing value with
  | nil => rfl
  | cons report reports ih =>
      obtain ⟨hreport, hreports⟩ := List.forall_mem_cons.1 h
      show remaining path reports (value.bind (Json.without (path report))) =
        remaining path' reports (value.bind (Json.without (path' report)))
      rw [hreport]
      exact ih hreports _

/-- The part of the remaining document under the key of a kind is what the
reports on this kind leave of it. -/
theorem get?_withoutReported (reports : List Skipped) (document : Json.Fields)
    (kind : RecordKind) :
    (withoutReported reports document).get? kind.documentKey =
      remaining Skipped.path (reports.filter fun report => report.kind = kind)
        (document.get? kind.documentKey) := by
  induction reports generalizing document with
  | nil => rfl
  | cons report reports ih =>
      show (withoutReported reports (document.without _ _)).get? _ = _
      rw [ih, Json.Fields.get?_without]
      by_cases hkind : report.kind = kind
      · subst hkind
        rw [if_pos rfl, List.filter_cons_of_pos (by simp)]
        rfl
      · have hkey : kind.documentKey ≠ report.kind.documentKey :=
          fun h => hkind (RecordKind.documentKey_inj h).symm
        rw [if_neg hkey, List.filter_cons_of_neg (by simpa using hkind)]

/-- Deleting inside one member of an object leaves the object. -/
theorem remaining_inside (key : String) (path : Skipped → List String)
    (reports : List Skipped) (fields : Json.Fields) :
    ∃ fields', remaining (fun report => key :: path report) reports
        (some (.object fields)) = some (.object fields') ∧
      Json.Fields.get? fields' key = remaining path reports (fields.get? key) := by
  induction reports generalizing fields with
  | nil => exact ⟨fields, rfl, rfl⟩
  | cons report reports ih =>
      obtain ⟨fields', hfields, hget⟩ := ih (fields.without key (path report))
      refine ⟨fields', hfields, ?_⟩
      rw [hget, Json.Fields.get?_without, if_pos rfl]
      rfl

/-- Deleting members of an object one by one leaves the others. -/
theorem remaining_members (reports : List Skipped) (fields : Json.Fields) :
    remaining (fun report => [report.record]) reports (some (.object fields)) =
      some (.object (fields.filter fun field =>
        field.1 ∉ reports.map Skipped.record)) := by
  induction reports generalizing fields with
  | nil => simp [remaining]
  | cons report reports ih =>
      show remaining _ reports (some (.object (fields.without report.record []))) = _
      rw [ih, Json.Fields.without_nil, List.filter_filter]
      congr 3
      funext field
      rw [Bool.eq_iff_iff]
      simp [and_comm]

namespace Document

/-! ## Sections -/

section Section

variable {α : Type} {product : String} {kind : RecordKind}
  {read : String × Json → Except Reason α} {entries : Json.Fields}

/-- If keys are distinct, the reports name exactly the entries that could not be
read. -/
theorem mem_map_record_skipped_iff (h : Json.Fields.Distinct entries)
    {entry : String × Json} (hentry : entry ∈ entries) :
    entry.1 ∈ (skipped product kind read entries).map Skipped.record ↔
      (read entry).toOption = none := by
  constructor
  · intro hmem
    obtain ⟨report, hreport, hrecord⟩ := List.mem_map.1 hmem
    obtain ⟨other, hother, reason, hreason, rfl⟩ := mem_skipped_iff.1 hreport
    obtain rfl : other = entry := List.inj_on_of_nodup_map h hother hentry hrecord
    rw [hreason]
    rfl
  · intro hread
    cases hreason : read entry with
    | ok record =>
        rw [hreason] at hread
        cases hread
    | error reason =>
        exact List.mem_map.2
          ⟨_, mem_skipped_iff.2 ⟨entry, hentry, reason, hreason, rfl⟩, rfl⟩

variable (product kind read)

/-- The entries without a report are kept as before, and get none again. -/
theorem kept_and_skipped_filter (h : Json.Fields.Distinct entries) :
    let rest := entries.filter fun entry =>
      entry.1 ∉ (skipped product kind read entries).map Skipped.record
    kept read rest = kept read entries ∧ skipped product kind read rest = [] := by
  have hrest : (entries.filter fun entry =>
      entry.1 ∉ (skipped product kind read entries).map Skipped.record) =
        entries.filter fun entry => (read entry).toOption.isSome := by
    refine List.filter_congr fun entry hentry => ?_
    rw [Bool.eq_iff_iff]
    simp [mem_map_record_skipped_iff h hentry, Option.isSome_iff_ne_none]
  dsimp only
  rw [hrest]
  constructor
  · unfold kept
    rw [List.filterMap_filter]
    refine List.filterMap_congr fun entry _ => ?_
    cases (read entry).toOption <;> rfl
  · rw [List.eq_nil_iff_forall_not_mem]
    intro report hreport
    obtain ⟨entry, hentry, reason, hreason, -⟩ := mem_skipped_iff.1 hreport
    have hread := (List.mem_filter.1 hentry).2
    rw [hreason] at hread
    cases hread

end Section

variable {α : Type} {product : String} {kind : RecordKind} {name : String}
  {build : String → Json.Fields → Except Reason α}

theorem entryPath_of_mem_skipped {read : String × Json → Except Reason α}
    (hread : ∀ entry, BlamesRecord (read entry)) {entries : Json.Fields}
    {report : Skipped} (h : report ∈ skipped product kind read entries) :
    report.entryPath = [report.record] := by
  obtain ⟨entry, -, reason, hreason, rfl⟩ := mem_skipped_iff.1 h
  cases reason with
  | sectionNotObject found => exact absurd hreason (hread entry found)
  | _ => rfl

/-- What the reports on entries leave of their object is kept as before, and
gets no report. -/
theorem exists_remaining_object {read : String × Json → Except Reason α}
    (hread : ∀ entry, BlamesRecord (read entry)) {entries : Json.Fields}
    (h : Json.Fields.Distinct entries) :
    ∃ rest, remaining Skipped.entryPath (skipped product kind read entries)
        (some (.object entries)) = some (.object rest) ∧
      kept read rest = kept read entries ∧ skipped product kind read rest = [] := by
  refine ⟨_, ?_, kept_and_skipped_filter product kind read h⟩
  rw [remaining_congr fun report hreport => entryPath_of_mem_skipped hread hreport]
  exact remaining_members _ entries

variable (product kind name)

/-- What the reports leave of a section has the records of the section, and
nothing of it is reported. -/
theorem readRecords_remaining (hbuild : ∀ name record, BlamesRecord (build name record))
    {value : Option Json}
    (hvalue : ∀ entries, value = some (.object entries) →
      Json.Fields.Distinct entries) :
    let found := readRecords product kind name build value
    readRecords product kind name build (remaining Skipped.entryPath found.2 value) =
      (found.1, []) := by
  dsimp only
  cases value with
  | none => rfl
  | some value =>
      cases value with
      | object entries =>
          have hfound :
              (readRecords product kind name build (some (.object entries))).2 =
              skipped product kind (readEntry build) entries := rfl
          obtain ⟨rest, hrest, hkept, hskipped⟩ :=
            exists_remaining_object (blamesRecord_readEntry hbuild) (hvalue entries rfl)
          rw [hfound, hrest]
          exact Prod.ext hkept hskipped
      | _ => rfl

theorem readConfiguration_remaining {value : Option Json}
    (hvalue : ∀ entries, value = some (.object entries) →
      Json.Fields.Distinct entries) :
    let found := readConfiguration product value
    readConfiguration product (remaining Skipped.entryPath found.2 value) =
      (found.1, []) := by
  dsimp only
  cases value with
  | none => rfl
  | some value =>
      cases value with
      | object entries =>
          have hfound : (readConfiguration product (some (.object entries))).2 =
              skipped product .configuration readAttribute entries := rfl
          obtain ⟨rest, hrest, hkept, hskipped⟩ :=
            exists_remaining_object blamesRecord_readAttribute (hvalue entries rfl)
          rw [hfound, hrest]
          refine Prod.ext ?_ hskipped
          show some (List.foldl _ _ (kept readAttribute rest)) = _
          rw [hkept]
          rfl
      | _ => rfl

/-- Reports on what is inside the groups lead into the groups. -/
theorem path_of_mem_readRecords {value : Option Json} {report : Skipped}
    (h : report ∈ (readRecords product .group "groups.metrics" buildGroup value).2) :
    report.path = "metrics" :: report.entryPath := by
  unfold readRecords at h
  split at h
  · cases h
  · obtain ⟨entry, -, reason, hreason, rfl⟩ := mem_skipped_iff.1 h
    cases reason with
    | sectionNotObject found =>
        exact absurd hreason
          (blamesRecord_readEntry blamesRecord_buildGroup entry found)
    | _ => rfl
  · rename_i reason hreason
    rw [List.mem_singleton.1 h]
    unfold readSection at hreason
    split at hreason
    · cases hreason
    · cases hreason
    · cases hreason
      rfl

theorem readGroups_remaining {value : Option Json}
    (hvalue : ∀ found, value = some found → found.WellKeyed) :
    let found := readGroups product value
    readGroups product (remaining Skipped.path found.2 value) = (found.1, []) := by
  dsimp only
  cases value with
  | none => rfl
  | some value =>
      cases value with
      | object fields =>
          let inner := Json.Fields.get? fields "metrics"
          have hfound : readGroups product (some (.object fields)) =
              readRecords product .group "groups.metrics" buildGroup inner := rfl
          obtain ⟨fields', hfields, hinner⟩ := remaining_inside "metrics"
            Skipped.entryPath (readGroups product (some (.object fields))).2 fields
          have hrest : remaining Skipped.path
              (readGroups product (some (.object fields))).2
              (some (.object fields)) = some (.object fields') := by
            rw [← hfields]
            exact remaining_congr
              (fun _ hreport => path_of_mem_readRecords product hreport) _
          rw [hrest]
          show readRecords product .group "groups.metrics" buildGroup
            (Json.Fields.get? fields' "metrics") = _
          rw [hinner, hfound]
          exact readRecords_remaining product .group "groups.metrics"
            blamesRecord_buildGroup fun _ hentries =>
              (hvalue _ rfl).distinct_of_get? hentries
      | _ => rfl

/-! ## Documents -/

theorem path_eq_entryPath {report : Skipped} (h : report.kind ≠ .group) :
    report.path = report.entryPath := by
  obtain ⟨product, kind, record, reason⟩ := report
  cases kind with
  | group => exact absurd rfl h
  | _ => rfl

/-- What is left of the section of a kind other than groups. -/
theorem get?_withoutReported_of_ne_group (reading : Reading) (document : Json.Fields)
    {kind : RecordKind} (hkind : kind ≠ .group) :
    (withoutReported reading.skipped document).get? kind.documentKey =
      remaining Skipped.entryPath (reading.reportsOn kind)
        (document.get? kind.documentKey) := by
  rw [get?_withoutReported]
  refine remaining_congr (fun report hreport => path_eq_entryPath ?_) _
  have hreportKind : report.kind = kind := by simpa using (List.mem_filter.1 hreport).2
  rwa [hreportKind]

/-- The remaining document has the tables of the document and no reports. -/
theorem readProduct_remaining {document : Json.Fields}
    (h : (Json.object document).WellKeyed) :
    let reading := readProduct product document
    readProduct product (withoutReported reading.skipped document) =
      ⟨reading.tables, []⟩ := by
  intro reading
  let rest := withoutReported reading.skipped document
  have hrest : ∀ kind : RecordKind, kind ≠ .group →
      rest.get? kind.documentKey =
        remaining Skipped.entryPath (reading.reportsOn kind)
          (document.get? kind.documentKey) :=
    fun _ hkind => get?_withoutReported_of_ne_group reading document hkind
  have hconfig : readConfiguration product (rest.get? "product_configuration") =
      (reading.tables.config, []) := by
    rw [show rest.get? "product_configuration" = _ from hrest .configuration nofun,
      reportsOn_readProduct]
    exact readConfiguration_remaining product fun _ => h.distinct_of_get?
  have hevents : readRecords product .event "events" buildEvent (rest.get? "events") =
      (reading.tables.events, []) := by
    rw [show rest.get? "events" = _ from hrest .event nofun,
      reportsOn_readProduct]
    exact readRecords_remaining product .event "events" blamesRecord_buildEvent
      fun _ => h.distinct_of_get?
  have hmetrics : readRecords product .metric "metrics" buildMetric
      (rest.get? "metrics") = (reading.tables.metrics, []) := by
    rw [show rest.get? "metrics" = _ from hrest .metric nofun,
      reportsOn_readProduct]
    exact readRecords_remaining product .metric "metrics" blamesRecord_buildMetric
      fun _ => h.distinct_of_get?
  have hgroups : readGroups product (rest.get? "groups") =
      (reading.tables.groups, []) := by
    have hgroupsRest : rest.get? "groups" =
        remaining Skipped.path (reading.reportsOn .group) (document.get? "groups") :=
      get?_withoutReported reading.skipped document .group
    rw [hgroupsRest, reportsOn_readProduct]
    exact readGroups_remaining product fun found hget => h.of_get? hget
  show readProduct product rest = _
  unfold readProduct
  rw [hconfig, hevents, hmetrics, hgroups]
  rfl

/-- **What is left out leaves no trace.** The document without all that is
reported says the same of the product, so its tables are laid out alike, and
nothing in it is reported. -/
theorem readProduct_withoutReported (product : String) {document : Json.Fields}
    (h : (Json.object document).WellKeyed) :
    let reading := readProduct product document
    let reading' := readProduct product (withoutReported reading.skipped document)
    reading'.tables = reading.tables ∧
      Layout.Widths.measure reading'.tables = Layout.Widths.measure reading.tables ∧
      reading'.skipped = [] ∧
      Layout.render (Layout.productLines reading'.tables) =
        Layout.render (Layout.productLines reading.tables) := by
  dsimp only
  rw [readProduct_remaining product h]
  exact ⟨rfl, rfl, rfl, rfl⟩

/-- Every section has something that cannot be used, or is itself of no use. -/
def patchyDocument : Json.Fields :=
  [("product_configuration", .object [("arch", .string "armv8"), ("cores", .array [])]),
    ("events", .object
      [("CPU_CYCLES", .object [("code", .number (.integer 17))]),
        ("A_NAME_LONGER_THAN_ALL_OTHERS", .object [("code", .bool true)])]),
    ("metrics", .array []),
    ("groups", .object
      [("metrics", .object [("", .object []), ("all", .object [])])])]

theorem patchyDocument_withoutReported :
    (Json.object patchyDocument).WellKeyed ∧
    let reading := readProduct "n1" patchyDocument
    let reading' := readProduct "n1" (withoutReported reading.skipped patchyDocument)
    reading'.tables = reading.tables ∧
      Layout.Widths.measure reading'.tables = Layout.Widths.measure reading.tables ∧
      reading'.skipped = [] ∧
      Layout.render (Layout.productLines reading'.tables) =
        Layout.render (Layout.productLines reading.tables) := by
  have hkeys : (Json.object patchyDocument).WellKeyed := by
    simp [patchyDocument, Json.Fields.Distinct]
  exact ⟨hkeys, readProduct_withoutReported "n1" hkeys⟩

end Document

end CounterTables
