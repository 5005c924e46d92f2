import Mathlib
import CounterTables.Proofs.Document.Deletion

/-!
# The order of reports

The sections of a document may come in any order, and so may the entries of a
section. Each section is read from its first entry to its last, so the reports
on one section follow the document. The sections themselves are read in an order
of their own, and the reports follow that: a section that is declared late and
read early is reported early.

What a report is about is a path of keys. One path precedes another in a value
if its key comes earlier where the two part.

## Main results

* `Json.Precedes.asymm` — what precedes does not follow.
* `inDocumentOrder_reportsOn` — the reports on one section.
* `reports_in_document_order_iff` — the reports on all sections, and when they
  are in the order of the document.
-/

namespace CounterTables

/-! ## Places in a value -/

/-- Of two members of a list that holds nothing twice, one comes first. -/
theorem not_sublist_swap {α : Type} {l : List α} (hl : l.Nodup) {a b : α}
    (h : [a, b].Sublist l) : ¬ [b, a].Sublist l := by
  induction l with
  | nil => cases h
  | cons c rest ih =>
      obtain ⟨hc, hrest⟩ := List.nodup_cons.1 hl
      intro h'
      cases h with
      | cons _ h =>
          cases h' with
          | cons _ h' => exact ih hrest h h'
          | cons_cons _ _ => exact hc (h.subset (by simp))
      | cons_cons _ h =>
          cases h' with
          | cons _ h' => exact hc (h'.subset (by simp))
          | cons_cons _ _ => exact hc (h.subset (by simp))

/-- What the first path leads to comes before what the second leads to: where
they part, the object has the key of the first path before that of the
second. -/
inductive Json.Precedes : Json → List String → List String → Prop
  | part {fields : Json.Fields} {key key' : String} (path path' : List String) :
      [key, key'].Sublist (fields.map Prod.fst) →
      Precedes (.object fields) (key :: path) (key' :: path')
  | inside {fields : Json.Fields} {key : String} {value : Json}
      {path path' : List String} :
      fields.get? key = some value → Precedes value path path' →
      Precedes (.object fields) (key :: path) (key :: path')

namespace Json.Precedes

variable {fields : Json.Fields} {key key' : String} {path path' : List String}

theorem iff_of_ne (hne : key ≠ key') :
    (Json.object fields).Precedes (key :: path) (key' :: path') ↔
      [key, key'].Sublist (fields.map Prod.fst) := by
  constructor
  · intro h
    cases h with
    | part _ _ hkeys => exact hkeys
    | inside _ _ => exact absurd rfl hne
  · exact .part path path'

/-- Where keys occur once, the places in a value are in one order only. -/
theorem asymm {value : Json} (h : value.Precedes path path')
    (hvalue : value.WellKeyed) :
    ¬ value.Precedes path' path := by
  induction h with
  | part path path' hkeys =>
      intro h'
      cases h' with
      | part _ _ hkeys' => exact not_sublist_swap hvalue.distinct hkeys hkeys'
      | inside _ _ => exact not_sublist_swap hvalue.distinct hkeys hkeys
  | inside hget _ ih =>
      intro h'
      cases h' with
      | part _ _ hkeys => exact not_sublist_swap hvalue.distinct hkeys hkeys
      | inside hget' hinside =>
          obtain rfl := Option.some.inj (hget.symm.trans hget')
          exact ih (hvalue.of_get? hget) hinside

end Json.Precedes

/-- The path in the document to what the report is about. -/
def Skipped.place (report : Skipped) : List String :=
  report.kind.documentKey :: report.path

/-- What each report is about comes before what the later ones are about. -/
def InDocumentOrder (document : Json.Fields) (reports : List Skipped) : Prop :=
  reports.Pairwise fun earlier later =>
    (Json.object document).Precedes earlier.place later.place

/-- The paths of the reports lead to parts of the value in the order of the
reports. -/
def FollowPaths (path : Skipped → List String) (value : Option Json)
    (reports : List Skipped) : Prop :=
  reports.Pairwise fun earlier later =>
    ∃ found, value = some found ∧ found.Precedes (path earlier) (path later)

theorem FollowPaths.congr {path path' : Skipped → List String} {value : Option Json}
    {reports : List Skipped} (h : FollowPaths path value reports)
    (hpath : ∀ report ∈ reports, path' report = path report) :
    FollowPaths path' value reports := by
  refine List.Pairwise.imp_of_mem (fun {earlier later} hearlier hlater hfound => ?_) h
  rwa [hpath earlier hearlier, hpath later hlater]

namespace Document

/-! ## One section -/

section Section

variable {α : Type} (product : String) (kind : RecordKind)

/-- Reports carry keys of the entries, in the order of the entries. -/
theorem map_record_skipped_sublist (read : String × Json → Except Reason α)
    (entries : Json.Fields) :
    ((skipped product kind read entries).map Skipped.record).Sublist
      (entries.map Prod.fst) := by
  induction entries with
  | nil => exact .slnil
  | cons entry entries ih =>
      cases hread : read entry with
      | ok record =>
          rw [skipped_cons_of_ok product kind hread]
          exact ih.cons _
      | error reason =>
          rw [skipped_cons_of_error product kind hread]
          exact ih.cons_cons _

/-- The reports on the entries of an object are in the order of the object. -/
theorem followPaths_skipped {read : String × Json → Except Reason α}
    (hread : ∀ entry, BlamesRecord (read entry)) (entries : Json.Fields) :
    FollowPaths Skipped.entryPath (some (.object entries))
      (skipped product kind read entries) := by
  have hkeys : ((skipped product kind read entries).map Skipped.record).Pairwise
      fun key key' => [key, key'].Sublist (entries.map Prod.fst) :=
    List.pairwise_iff_forall_sublist.2 fun hpair =>
      hpair.trans (map_record_skipped_sublist product kind read entries)
  refine (List.pairwise_map.1 hkeys).imp_of_mem fun hearlier hlater hpair => ?_
  rw [entryPath_of_mem_skipped hread hearlier, entryPath_of_mem_skipped hread hlater]
  exact ⟨_, rfl, .part [] [] hpair⟩

theorem followPaths_readRecords (sectionName : String)
    {build : String → Json.Fields → Except Reason α}
    (hbuild : ∀ name record, BlamesRecord (build name record)) (value : Option Json) :
    FollowPaths Skipped.entryPath value
      (readRecords product kind sectionName build value).2 := by
  rcases value with _ | found
  · exact .nil
  cases found with
  | object entries =>
      exact followPaths_skipped product kind (blamesRecord_readEntry hbuild) entries
  | _ => exact List.pairwise_singleton _ _

theorem followPaths_readConfiguration (value : Option Json) :
    FollowPaths Skipped.entryPath value (readConfiguration product value).2 := by
  rcases value with _ | found
  · exact .nil
  cases found with
  | object entries =>
      exact followPaths_skipped product .configuration
        blamesRecord_readAttribute entries
  | _ => exact List.pairwise_singleton _ _

theorem followPaths_readGroups (value : Option Json) :
    FollowPaths Skipped.path value (readGroups product value).2 := by
  rcases value with _ | found
  · exact .nil
  cases found with
  | object fields =>
      have hinner := followPaths_readRecords product .group "groups.metrics"
        blamesRecord_buildGroup (Json.Fields.get? fields "metrics")
      refine List.Pairwise.imp_of_mem ?_ hinner
      rintro earlier later hearlier hlater ⟨inner, hget, hprecedes⟩
      rw [path_of_mem_readRecords product hearlier,
        path_of_mem_readRecords product hlater]
      exact ⟨_, rfl, .inside hget hprecedes⟩
  | _ => exact List.pairwise_singleton _ _

end Section

/-! ## All sections -/

theorem kind_of_mem_reportsOn {reading : Reading} {kind : RecordKind} {report : Skipped}
    (h : report ∈ reading.reportsOn kind) : report.kind = kind := by
  simpa using (List.mem_filter.1 h).2

theorem place_of_mem_reportsOn {reading : Reading} {kind : RecordKind}
    {report : Skipped} (h : report ∈ reading.reportsOn kind) :
    report.place = kind.documentKey :: report.path := by
  rw [Skipped.place, kind_of_mem_reportsOn h]

theorem followPaths_reportsOn (product : String) (document : Json.Fields)
    (kind : RecordKind) :
    FollowPaths Skipped.path (document.get? kind.documentKey)
      ((readProduct product document).reportsOn kind) := by
  have hpath : kind ≠ .group → ∀ report ∈ (readProduct product document).reportsOn kind,
      report.path = report.entryPath := by
    intro hkind report hreport
    exact path_eq_entryPath (kind_of_mem_reportsOn hreport ▸ hkind)
  rw [reportsOn_readProduct] at hpath ⊢
  cases kind with
  | configuration => exact (followPaths_readConfiguration product _).congr (hpath nofun)
  | event =>
      exact (followPaths_readRecords product _ _ blamesRecord_buildEvent _).congr
        (hpath nofun)
  | metric =>
      exact (followPaths_readRecords product _ _ blamesRecord_buildMetric _).congr
        (hpath nofun)
  | group => exact followPaths_readGroups product _

/-- The reports on one section are in the order of the document. -/
theorem inDocumentOrder_reportsOn (product : String) (document : Json.Fields)
    (kind : RecordKind) :
    InDocumentOrder document ((readProduct product document).reportsOn kind) := by
  refine List.Pairwise.imp_of_mem ?_ (followPaths_reportsOn product document kind)
  rintro earlier later hearlier hlater ⟨found, hget, hprecedes⟩
  rw [place_of_mem_reportsOn hearlier, place_of_mem_reportsOn hlater]
  exact .inside hget hprecedes

/-- Reports on two sections are in the order of the sections. -/
theorem forall_precedes_iff {reading : Reading} {document : Json.Fields}
    {kind kind' : RecordKind} (hne : kind ≠ kind') :
    (∀ report ∈ reading.reportsOn kind, ∀ report' ∈ reading.reportsOn kind',
        (Json.object document).Precedes report.place report'.place) ↔
      (reading.reportsOn kind ≠ [] → reading.reportsOn kind' ≠ [] →
        [kind.documentKey, kind'.documentKey].Sublist (document.map Prod.fst)) := by
  have hplaces : ∀ report ∈ reading.reportsOn kind, ∀ report' ∈ reading.reportsOn kind',
      ((Json.object document).Precedes report.place report'.place ↔
        [kind.documentKey, kind'.documentKey].Sublist (document.map Prod.fst)) := by
    intro report hreport report' hreport'
    rw [place_of_mem_reportsOn hreport, place_of_mem_reportsOn hreport']
    exact Json.Precedes.iff_of_ne fun hkey => hne (RecordKind.documentKey_inj hkey)
  constructor
  · intro h hkind hkind'
    obtain ⟨report, hreport⟩ := List.exists_mem_of_ne_nil _ hkind
    obtain ⟨report', hreport'⟩ := List.exists_mem_of_ne_nil _ hkind'
    exact (hplaces report hreport report' hreport').1
      (h report hreport report' hreport')
  · intro h report hreport report' hreport'
    exact (hplaces report hreport report' hreport').2
      (h (List.ne_nil_of_mem hreport) (List.ne_nil_of_mem hreport'))

/-- The kinds of records in the order in which their sections are read. -/
def sectionOrder : List RecordKind :=
  [.configuration, .event, .metric, .group]

theorem skipped_eq_flatMap (product : String) (document : Json.Fields) :
    (readProduct product document).skipped =
      sectionOrder.flatMap (readProduct product document).reportsOn := by
  simp only [sectionOrder, List.flatMap_cons, List.flatMap_nil, reportsOn_readProduct]
  simp [readProduct]

/-- **Reports follow the document section by section.** The reports on the
configuration come first, then those on events, on metrics and on groups, and
those on one section are in the order of the document. So all of them are just
if the sections with reports are declared in the order in which they are
read. -/
theorem reports_in_document_order_iff (product : String) (document : Json.Fields) :
    let reading := readProduct product document
    reading.skipped = sectionOrder.flatMap reading.reportsOn ∧
      (∀ kind, InDocumentOrder document (reading.reportsOn kind)) ∧
      (InDocumentOrder document reading.skipped ↔
        ∀ kind kind', [kind, kind'].Sublist sectionOrder →
          reading.reportsOn kind ≠ [] → reading.reportsOn kind' ≠ [] →
            [kind.documentKey, kind'.documentKey].Sublist (document.map Prod.fst)) := by
  intro reading
  have hskipped : reading.skipped = sectionOrder.flatMap reading.reportsOn :=
    skipped_eq_flatMap product document
  have hsections : ∀ kind, InDocumentOrder document (reading.reportsOn kind) :=
    inDocumentOrder_reportsOn product document
  have hne : ∀ {kind kind'}, [kind, kind'].Sublist sectionOrder → kind ≠ kind' := by
    intro kind kind' hpair
    have hnodup : sectionOrder.Nodup := by decide
    simpa using hpair.nodup hnodup
  refine ⟨hskipped, hsections, ?_⟩
  rw [hskipped, InDocumentOrder, List.pairwise_flatMap,
    List.pairwise_iff_forall_sublist]
  constructor
  · rintro ⟨-, hpairs⟩ kind kind' hpair
    exact (forall_precedes_iff (hne hpair)).1 (hpairs hpair)
  · intro hdeclared
    refine ⟨fun kind _ => hsections kind, fun {kind kind'} hpair => ?_⟩
    exact (forall_precedes_iff (hne hpair)).2 (hdeclared kind kind' hpair)

/-- A metric and an event that cannot be used, the metric first. -/
def lateEvents : Json.Fields :=
  [("metrics", .object [("m", .number (.integer 1))]),
    ("events", .object [("e", .number (.integer 1))])]

/-- The event comes after the metric, and the report on it first. -/
theorem lateEvents_not_in_document_order :
    (Json.object lateEvents).WellKeyed ∧
      ∃ onEvent onMetric, (readProduct "n1" lateEvents).skipped = [onEvent, onMetric] ∧
        (Json.object lateEvents).Precedes onMetric.place onEvent.place ∧
        ¬ InDocumentOrder lateEvents (readProduct "n1" lateEvents).skipped := by
  have hkeys : (Json.object lateEvents).WellKeyed := by
    simp [lateEvents, Json.Fields.Distinct]
  have hskipped : (readProduct "n1" lateEvents).skipped =
      [⟨"n1", .event, "e", .notObject "a number"⟩,
        ⟨"n1", .metric, "m", .notObject "a number"⟩] := by rfl
  have hprecedes : (Json.object lateEvents).Precedes ["metrics", "m"] ["events", "e"] :=
    .part ["m"] ["e"] (List.Sublist.refl _)
  refine ⟨hkeys, _, _, hskipped, hprecedes, ?_⟩
  intro horder
  rw [InDocumentOrder, hskipped, List.pairwise_pair] at horder
  exact hprecedes.asymm hkeys horder

end Document

end CounterTables
