import Mathlib
import CounterTables.Proofs.Run.Segments

/-!
# The output of a run

The output of a run is the licence and then the segments of the entries that the
settings want, in the order of the catalog. An entry contributes the same in
every run that finds the same for it; whether the documents of other products
are described, aliases, missing or broken makes no difference to it.

## Main results

* `Setup.Ready.run_of_written`, `Setup.Ready.run_of_cut` — how a run ends on a
  sink that takes its output, and on one that does not.
* `run_concatenates_segments` — the output and the reports of a run on a sink
  that takes everything.
* `mixedSetup_concatenates` — a run over documents of all kinds.
-/

namespace CounterTables

open CounterTables.Document (readProduct)
open CounterTables.Layout (areLaidOut textOf)
open CounterTables.Text (Utf8.encode Utf8.encode_append)

/-! ## Whole runs -/

/-- What a run starts from. -/
structure Setup where
  settings : Settings
  files : FileReader Id
  source : DocumentSource Id

namespace Setup

/-- The run with its output in a sink: how it ends, and the sink in the end. -/
def run (setup : Setup) (sink : Sink) : Except RunFault RunReport × Sink :=
  (runTelemetry setup.settings (FileReader.fixed setup.files) setup.source.fixed
    .ofSink).run sink

/-- The text of the licence, if there is one. -/
def license (setup : Setup) : Except RunFault (Option String) :=
  readLicense setup.files setup.settings.license

/-- The settings name these entries, the licence can be read, and the tables of
each entry are within the limit of widths. -/
structure Ready (setup : Setup) (entries : List Entry) (license : Option String) :
    Prop where
  entries_eq : setup.settings.entries = .ok entries
  license_eq : setup.license = .ok license
  fits : ∀ entry ∈ entries, (setup.source.fetched entry).Fits

/-- The output of a run in full: the licence, then the entries. -/
def output (setup : Setup) (license : Option String) (entries : List Entry) : String :=
  textOf (licenseHeader license) ++ setup.source.segments entries

theorem run_of_entries_error {setup : Setup} {fault : SettingsFault}
    (h : setup.settings.entries = .error fault) (sink : Sink) :
    setup.run sink = (.error (.settings fault), sink) := by
  rw [run, runTelemetry, h]
  rfl

theorem run_readLicense (setup : Setup) (sink : Sink) :
    (readLicense (FileReader.fixed setup.files) setup.settings.license).run sink =
      (setup.license, sink) :=
  run_readLicense_fixed setup.files setup.settings.license sink

theorem run_of_license_error {setup : Setup} {entries : List Entry} {fault : RunFault}
    (hentries : setup.settings.entries = .ok entries) (h : setup.license = .error fault)
    (sink : Sink) :
    setup.run sink = (.error fault, sink) := by
  rw [run, runTelemetry, hentries]
  simp only [run_bind, run_readLicense, h]
  rfl

section Ready

variable {setup : Setup} {entries : List Entry} {license : Option String}
  (h : setup.Ready entries license)

include h

/-- A run writes the licence, visits the entries, and flushes. -/
theorem Ready.run_eq (sink : Sink) :
    setup.run sink =
      match sink.write (textOf (licenseHeader license)) with
      | (sink, some fault) => (.error (.licenseHeader fault), sink)
      | (sink, none) =>
          (visitAndFlush .ofSink setup.source.fixed entries).run sink := by
  rw [run, runTelemetry, h.entries_eq]
  simp only [run_bind, run_readLicense, h.license_eq,
    run_write (areLaidOut_licenseHeader license)]
  obtain ⟨after, _ | fault⟩ := sink.write (textOf (licenseHeader license)) <;> rfl

/-- If the output fits, all entries have their reports, unless the sink refuses
to be flushed. -/
theorem Ready.run_of_written {sink after : Sink}
    (hwrite : sink.write (setup.output license entries) = (after, none)) :
    setup.run sink =
      match after.flush with
      | some fault => (.error (.flush fault), after)
      | none => (.ok ⟨setup.source.reports entries⟩, after) := by
  rw [output, Sink.write_append] at hwrite
  rw [h.run_eq]
  generalize sink.write (textOf (licenseHeader license)) = header at hwrite ⊢
  obtain ⟨mid, _ | fault⟩ := header
  · have hvisit := run_visitAll_of_written h.fits hwrite
    simp only [visitAndFlush, run_bind, hvisit]
    have hflush : Stage.ofSink.flush.run after = (after.flush, after) := rfl
    simp only [hflush]
    cases after.flush <;> rfl
  · cases hwrite

/-- If the output does not fit, the run ends with the fault of the licence or of
the entry that is cut, and writes no more. -/
theorem Ready.run_of_cut {sink after : Sink} {fault : WriteFault}
    (hwrite : sink.write (setup.output license entries) = (after, some fault)) :
    ((sink.write (textOf (licenseHeader license))).2 = some fault ∧
      setup.run sink = (.error (.licenseHeader fault), after)) ∨
    ∃ front entry back, entries = front ++ entry :: back ∧
      (sink.write (setup.output license front)).2 = none ∧
      (sink.write (setup.output license (front ++ [entry]))).2 = some fault ∧
      setup.run sink = (.error (.product entry.product fault), after) := by
  simp only [output, Sink.write_append] at hwrite ⊢
  rw [h.run_eq]
  generalize sink.write (textOf (licenseHeader license)) = header at hwrite ⊢
  obtain ⟨mid, _ | first⟩ := header
  · right
    obtain ⟨front, entry, back, hsplit, hfront, hcut, hvisit⟩ :=
      run_visitAll_of_cut h.fits hwrite
    refine ⟨front, entry, back, hsplit, hfront, hcut, ?_⟩
    simp only [visitAndFlush, run_bind, hvisit]
    rfl
  · left
    cases hwrite
    exact ⟨rfl, rfl⟩

/-- A sink that takes everything has the whole output in the end. -/
theorem Ready.run_unbounded :
    setup.run .unbounded =
      (.ok ⟨setup.source.reports entries⟩,
        ⟨none, false, Utf8.encode (setup.output license entries)⟩) := by
  have hwrite : Sink.unbounded.write (setup.output license entries) =
      (⟨none, false, Utf8.encode (setup.output license entries)⟩, none) := rfl
  rw [h.run_of_written hwrite]
  rfl

end Ready

/-- The run ends well, the product at this place has this report, and these
bytes stand in the output behind those of the products before it. -/
def Contributes (setup : Setup) (place : Nat) (segment : String)
    (report : ProductReport) : Prop :=
  ∃ products front back, setup.run .unbounded = (.ok ⟨products⟩,
      ⟨none, false, Utf8.encode front ++ Utf8.encode segment ++ Utf8.encode back⟩) ∧
    products[place]? = some report

/-- An entry contributes its own segment and report, wherever it stands. -/
theorem Ready.contributes {setup : Setup} {entries : List Entry}
    {license : Option String} (h : setup.Ready entries license) {place : Nat}
    {entry : Entry} (hplace : entries[place]? = some entry) :
    setup.Contributes place (setup.source.fetched entry).segment
      (setup.source.fetched entry).report := by
  obtain ⟨hlt, hentry⟩ := List.getElem?_eq_some_iff.1 hplace
  have hsplit : entries = entries.take place ++ entry :: entries.drop (place + 1) := by
    rw [← hentry, List.cons_getElem_drop_succ, List.take_append_drop]
  refine ⟨setup.source.reports entries,
    textOf (licenseHeader license) ++ setup.source.segments (entries.take place),
    setup.source.segments (entries.drop (place + 1)), ?_, ?_⟩
  · have houtput : setup.output license entries =
        textOf (licenseHeader license) ++ setup.source.segments (entries.take place) ++
          (setup.source.fetched entry).segment ++
            setup.source.segments (entries.drop (place + 1)) := by
      conv_lhs => rw [hsplit]
      rw [output, segments_append, segments_cons]
      simp only [String.append_assoc]
    rw [h.run_unbounded, houtput, Utf8.encode_append, Utf8.encode_append]
  · simp [DocumentSource.reports, hplace]

end Setup

/-- The entries of a run are those of the catalog that go by the wanted name. -/
theorem entries_eq_filter {settings : Settings} {entries : List Entry}
    (h : settings.entries = .ok entries) :
    entries = settings.catalog.entries.filter fun entry =>
      settings.cpu.all (Catalog.matchesName · entry) := by
  unfold Settings.entries Catalog.select at h
  cases hcpu : settings.cpu with
  | none =>
      simp only [hcpu, Except.ok.injEq] at h
      simp [h]
  | some name =>
      simp only [hcpu] at h
      cases hfilter : settings.catalog.entries.filter (Catalog.matchesName name) with
      | nil => simp [hfilter] at h
      | cons first more =>
          simp only [hfilter, Except.ok.injEq] at h
          simpa [← h] using hfilter.symm

/-- **The output of a run is its segments in turn.** If the settings name
entries, the licence can be read, and all tables are within the limit of widths,
a run whose output is all taken ends well. It reports on the entries that are
wanted, one by one in the order of the catalog, and its output is the licence
and then the segment of each of them. A segment and a report are made of what is
known of their own entry; so any other run that finds the same for the entry
contributes the same for it, whatever else it visits. -/
theorem run_concatenates_segments {setup : Setup} {entries : List Entry}
    {license : Option String} (h : setup.Ready entries license) :
    (entries = setup.settings.catalog.entries.filter fun entry =>
      setup.settings.cpu.all (Catalog.matchesName · entry)) ∧
    setup.run .unbounded =
      (.ok ⟨entries.map fun entry => (setup.source.fetched entry).report⟩,
        ⟨none, false, Utf8.encode (textOf (licenseHeader license) ++
          String.join (entries.map fun entry =>
            (setup.source.fetched entry).segment))⟩) ∧
    ∀ (other : Setup) (others : List Entry) (license' : Option String),
      other.Ready others license' → ∀ (place : Nat), ∀ entry ∈ entries,
        others[place]? = some entry →
          other.source.fetched entry = setup.source.fetched entry →
            other.Contributes place (setup.source.fetched entry).segment
              (setup.source.fetched entry).report := by
  refine ⟨entries_eq_filter h.entries_eq, h.run_unbounded, ?_⟩
  intro other others license' hother place entry _ hplace hsame
  rw [← hsame]
  exact hother.contributes hplace

/-! ## A run over four documents -/

/-- A described product, an alias of it, a document that is missing, and one
that is not text. -/
def mixedSource : DocumentSource Id where
  locate entry := entry.family ++ "/" ++ entry.document
  fetch entry :=
    match entry.document with
    | "n1.json" =>
        .ok (Utf8.encode
          "\x7b\"events\":\x7b\"cycles\":\x7b\"code\":\"0x11\"\x7d\x7d\x7d")
    | "n2.json" => .ok (Utf8.encode " n1.json\n")
    | "n3.json" => .error (.refused "neoverse/n3.json" 404)
    | _ => .ok [0xFF]
  announce _ := []

def mixedSetup : Setup where
  settings := { Settings.standard with
    catalog := ⟨[⟨"neoverse", ["n1.json", "n2.json", "n3.json", "n4.json"]⟩]⟩
    license := some "LICENSE" }
  files path :=
    if path = "LICENSE" then .ok (Utf8.encode "BSD\n\nText") else .error .notFound
  source := mixedSource

/-- The alias alone, without a licence. -/
def aliasSetup : Setup where
  settings := { mixedSetup.settings with cpu := some "n2", license := none }
  files _ := .error .notFound
  source := mixedSource

def mixedEntries : List Entry :=
  ["n1.json", "n2.json", "n3.json", "n4.json"].map (Entry.of "neoverse")

theorem fits_mixedSource :
    ∀ entry ∈ mixedEntries, (mixedSource.fetched entry).Fits := by
  have hdescribed : (mixedSource.fetched (Entry.of "neoverse" "n1.json")).document =
      .ok (.described
        [("events", .object [("cycles", .object [("code", .string "0x11")])])]) := by
    cbv
  have halias : (mixedSource.fetched (Entry.of "neoverse" "n2.json")).document =
      .ok (.alias "n1") := by
    cbv
  have hmissing : (mixedSource.fetched (Entry.of "neoverse" "n3.json")).document =
      .error (.refused "neoverse/n3.json" 404) := by
    cbv
  have hbytes : (mixedSource.fetched (Entry.of "neoverse" "n4.json")).document =
      .error (.notText "neoverse/n4.json") := by
    cbv
  simp only [mixedEntries, List.map_cons, List.map_nil, List.forall_mem_cons]
  refine ⟨?_, ?_, ?_, ?_, by simp⟩
  · intro fields hfields
    rw [hdescribed] at hfields
    cases hfields
    have hcolumns : (Layout.Widths.measure (readProduct "n1" [("events",
        .object [("cycles", .object [("code", .string "0x11")])])]).tables).columns =
          [10, 4, 4, 4, 4, 4, 4, 4] := by
      cbv
    show (Layout.Widths.measure (readProduct "n1" _).tables).Fit
    simp [Layout.Widths.Fit, hcolumns, Text.maxWidth]
  · intro fields hfields
    rw [halias] at hfields
    cases hfields
  · intro fields hfields
    rw [hmissing] at hfields
    cases hfields
  · intro fields hfields
    rw [hbytes] at hfields
    cases hfields

theorem mixedSetup_concatenates :
    mixedSetup.Ready mixedEntries (some "BSD\n\nText") ∧
    aliasSetup.Ready [Entry.of "neoverse" "n2.json"] none ∧
    mixedSetup.run .unbounded =
      (.ok ⟨mixedEntries.map fun entry => (mixedSource.fetched entry).report⟩,
        ⟨none, false, Utf8.encode (textOf (licenseHeader (some "BSD\n\nText")) ++
          String.join (mixedEntries.map fun entry =>
            (mixedSource.fetched entry).segment))⟩) ∧
    aliasSetup.Contributes 0
      "// neoverse/n2.json\nWPERF_TS_ALIAS(\"n2\",\"n1\")\n\n"
      ⟨"n2", "neoverse/n2.json", .alias "n1", 0, 0, 0, []⟩ := by
  have hmixed : mixedSetup.Ready mixedEntries (some "BSD\n\nText") :=
    ⟨by cbv, by cbv, fits_mixedSource⟩
  have halias : aliasSetup.Ready [Entry.of "neoverse" "n2.json"] none := by
    refine ⟨by cbv, by cbv, ?_⟩
    intro entry hentry
    obtain rfl := List.mem_singleton.1 hentry
    exact fits_mixedSource _ (by decide)
  obtain ⟨-, hrun, hothers⟩ := run_concatenates_segments hmixed
  have hcontributes :=
    hothers aliasSetup _ none halias 0 (Entry.of "neoverse" "n2.json")
    (by decide) rfl rfl
  refine ⟨hmixed, halias, hrun, ?_⟩
  have hsegment : (mixedSource.fetched (Entry.of "neoverse" "n2.json")).segment =
      "// neoverse/n2.json\nWPERF_TS_ALIAS(\"n2\",\"n1\")\n\n" := by
    cbv
  have hreport : (mixedSource.fetched (Entry.of "neoverse" "n2.json")).report =
      ⟨"n2", "neoverse/n2.json", .alias "n1", 0, 0, 0, []⟩ := by
    cbv
  rw [← hsegment, ← hreport]
  exact hcontributes

end CounterTables
