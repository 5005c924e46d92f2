import Mathlib
import CounterTables.Proofs.Layout.LicenseBlock
import CounterTables.Proofs.Layout.WidthLimit
import CounterTables.Run.Telemetry

/-!
# Segments of a run

A run goes through its entries one after the other, and all of them write to one
sink. What an entry adds is its segment: the line that says where its document
is, and behind it the tables, the line of an alias, or nothing at all if there
is no document to be had. The segment is made of what is known of the entry
alone; no width, count or fault is carried from one entry to the next.

Files and documents are fixed here, so they do not depend on what was written
before. On a sink each step is then one write: an entry writes its segment, and
entries in turn write their segments as one text. A write that fails ends the
run with the fault of the product whose segment it was in.

## Main results

* `run_visit` — the step: an entry writes its segment and has its report.
* `run_visitAll_of_written`, `run_visitAll_of_cut` — entries in turn, when all
  their segments fit into the sink and when they do not.
-/

namespace CounterTables

open CounterTables.Document (readProduct)
open CounterTables.Layout (Lines areLaidOut textOf render locationLines
  aliasLines productLines)

/-! ## Fixed surroundings -/

/-- Files that are the same whatever a run has written. -/
def FileReader.fixed (files : FileReader Id) : FileReader (StateM Sink) :=
  fun path => pure (files path)

/-- Documents that are the same whatever a run has written. -/
def DocumentSource.fixed (source : DocumentSource Id) :
    DocumentSource (StateM Sink) where
  locate := source.locate
  fetch entry := pure (source.fetch entry)
  announce := source.announce

/-! ## What is known of an entry -/

/-- What a run knows of an entry: the name of its product, where its document
is, and the bytes found there or why there are none. -/
structure Fetched where
  product : String
  location : String
  content : Except SourceFault (List UInt8)

namespace Fetched

def document (fetched : Fetched) : Except SourceFault Document :=
  fetched.content.bind (Document.parse fetched.location)

/-- The tables that the document describes, if it describes any, are within the
limit of widths. -/
def Fits (fetched : Fetched) : Prop :=
  ∀ fields, fetched.document = .ok (.described fields) →
    (Layout.Widths.measure (readProduct fetched.product fields).tables).Fit

/-- What follows the location: nothing, the line of an alias, or the tables. -/
def body (fetched : Fetched) : String :=
  match fetched.document with
  | .error _ => ""
  | .ok (.alias target) => textOf (aliasLines fetched.product target)
  | .ok (.described fields) =>
      (render (productLines (readProduct fetched.product fields).tables)).getD ""

/-- What the entry adds to the output. -/
def segment (fetched : Fetched) : String :=
  textOf (locationLines fetched.location) ++ fetched.body

/-- What is said of the entry in the end. -/
def report (fetched : Fetched) : ProductReport where
  product := fetched.product
  location := fetched.location
  status :=
    match fetched.document with
    | .error fault => .failed fault.message
    | .ok (.alias target) => .alias target
    | .ok (.described _) => .emitted
  events :=
    match fetched.document with
    | .ok (.described fields) =>
        (readProduct fetched.product fields).tables.events.length
    | _ => 0
  metrics :=
    match fetched.document with
    | .ok (.described fields) =>
        (readProduct fetched.product fields).tables.metrics.length
    | _ => 0
  groups :=
    match fetched.document with
    | .ok (.described fields) =>
        (readProduct fetched.product fields).tables.groups.length
    | _ => 0
  skipped :=
    match fetched.document with
    | .ok (.described fields) => (readProduct fetched.product fields).skipped
    | _ => []

end Fetched

/-- What a source knows of an entry. -/
def DocumentSource.fetched (source : DocumentSource Id) (entry : Entry) : Fetched :=
  ⟨entry.product, source.locate entry, source.fetch entry⟩

/-! ## Steps on a sink -/

theorem run_bind {α β : Type} (first : StateM Sink α) (next : α → StateM Sink β)
    (sink : Sink) :
    (first >>= next).run sink = (next (first.run sink).1).run (first.run sink).2 :=
  rfl

theorem run_reportAll (events : List Log.Event) (sink : Sink) :
    (Stage.ofSink.reportAll events).run sink = ((), sink) := by
  induction events with
  | nil => rfl
  | cons event rest ih => exact ih

theorem run_write {lines : Lines} (h : areLaidOut lines = true) (sink : Sink) :
    (Stage.ofSink.write lines).run sink =
      ((sink.write (textOf lines)).2, (sink.write (textOf lines)).1) := by
  rw [← Sink.writeLines_of_areLaidOut sink h]
  rfl

/-- Reading the licence does not touch the sink. -/
theorem run_readLicense_fixed (files : FileReader Id) (path : Option String)
    (sink : Sink) :
    (readLicense (FileReader.fixed files) path).run sink =
      (readLicense files path, sink) := by
  cases path <;> rfl

theorem areLaidOut_licenseHeader (license : Option String) :
    areLaidOut (licenseHeader license) = true := by
  cases license with
  | none => rfl
  | some text => exact Layout.areLaidOut_licenseLines text

/-- What is done with a document: its lines are written, and then the entry has
its report. -/
theorem run_perform {visit : Visit} (h : areLaidOut visit.lines = true) (sink : Sink) :
    (visit.perform .ofSink).run sink =
      match sink.write (textOf visit.lines) with
      | (sink, some fault) => (.error fault, sink)
      | (sink, none) => (.ok visit.report, sink) := by
  simp only [Visit.perform, Stage.reportInside, run_bind, run_reportAll, run_write h]
  obtain ⟨after, _ | fault⟩ := sink.write (textOf visit.lines)
  · simp only [run_bind, run_reportAll]
    rfl
  · rfl

section Entry

variable {source : DocumentSource Id} {entry : Entry}

/-- The lines and the report of a visit are those of what was fetched. -/
theorem visitDocument_fetched (h : (source.fetched entry).Fits) :
    let visit :=
      visitDocument entry (source.locate entry) (source.fetched entry).document
    areLaidOut visit.lines = true ∧ textOf visit.lines = (source.fetched entry).body ∧
      visit.report = (source.fetched entry).report := by
  intro visit
  unfold Fetched.body Fetched.report
  simp only [visit]
  cases hdocument : (source.fetched entry).document with
  | error fault => exact ⟨rfl, rfl, rfl⟩
  | ok document =>
      rcases document with fields | target
      · have hlaid := Layout.areLaidOut_productLines_iff.2 (h fields hdocument)
        refine ⟨hlaid, ?_, rfl⟩
        have hrender := Layout.render_of_areLaidOut hlaid
        simp only [hrender, Option.getD_some]
        rfl
      · exact ⟨rfl, rfl, rfl⟩

theorem locate_fixed : source.fixed.locate entry = source.locate entry :=
  rfl

theorem run_load (sink : Sink) :
    (source.fixed.load entry).run sink = ((source.fetched entry).document, sink) :=
  rfl

/-- Inside the span of its product, an entry writes its segment and has its
report; if the segment does not fit, the fault of the sink is passed on. -/
theorem run_visitInside (h : (source.fetched entry).Fits) (sink : Sink) :
    (visitInside .ofSink source.fixed entry).run sink =
      match sink.write (source.fetched entry).segment with
      | (sink, some fault) => (.error fault, sink)
      | (sink, none) => (.ok (source.fetched entry).report, sink) := by
  obtain ⟨hlaid, hbody, hreport⟩ := visitDocument_fetched h
  have hlocation : areLaidOut (locationLines (source.locate entry)) = true := rfl
  have hsegment : (source.fetched entry).segment =
      textOf (locationLines (source.locate entry)) ++ (source.fetched entry).body := rfl
  rw [hsegment, Sink.write_append, ← hbody]
  simp only [visitInside, Stage.reportInside, locate_fixed, run_bind,
    run_write hlocation]
  obtain ⟨after, _ | fault⟩ := sink.write (textOf (locationLines (source.locate entry)))
  · simp only [run_bind, run_reportAll, run_load, run_perform hlaid, hreport]
  · rfl

theorem run_visit (h : (source.fetched entry).Fits) (sink : Sink) :
    (visit .ofSink source.fixed entry).run sink =
      match sink.write (source.fetched entry).segment with
      | (sink, some fault) => (.error (.product entry.product fault), sink)
      | (sink, none) => (.ok (source.fetched entry).report, sink) := by
  simp only [visit, run_bind, run_visitInside h]
  obtain ⟨after, _ | fault⟩ := sink.write (source.fetched entry).segment <;> rfl

end Entry

/-! ## Entries in turn -/

/-- What the entries add to the output, one after the other. -/
def DocumentSource.segments (source : DocumentSource Id) (entries : List Entry) :
    String :=
  String.join (entries.map fun entry => (source.fetched entry).segment)

/-- The reports on the entries, in their order. -/
def DocumentSource.reports (source : DocumentSource Id) (entries : List Entry) :
    List ProductReport :=
  entries.map fun entry => (source.fetched entry).report

section Entries

variable {source : DocumentSource Id}

theorem segments_cons (entry : Entry) (rest : List Entry) :
    source.segments (entry :: rest) =
      (source.fetched entry).segment ++ source.segments rest := by
  rw [DocumentSource.segments, List.map_cons, String.join_cons]
  rfl

theorem segments_append (front back : List Entry) :
    source.segments (front ++ back) =
      source.segments front ++ source.segments back := by
  simp [DocumentSource.segments]

/-- The first segment is written, and then the others. -/
theorem write_segments_cons (sink : Sink) (entry : Entry) (rest : List Entry) :
    sink.write (source.segments (entry :: rest)) =
      match sink.write (source.fetched entry).segment with
      | (sink, some fault) => (sink, some fault)
      | (sink, none) => sink.write (source.segments rest) := by
  have happend :=
    Sink.write_append sink (source.fetched entry).segment (source.segments rest)
  rw [segments_cons]
  exact happend

theorem write_segments_nil (sink : Sink) :
    sink.write (source.segments []) = (sink, none) :=
  Sink.write_empty sink

/-- If all segments fit, all entries have their reports. -/
theorem run_visitAll_of_written {entries : List Entry}
    (hfits : ∀ entry ∈ entries, (source.fetched entry).Fits) {sink after : Sink}
    (h : sink.write (source.segments entries) = (after, none)) :
    (visitAll .ofSink source.fixed entries).run sink =
      (.ok (source.reports entries), after) := by
  induction entries generalizing sink with
  | nil =>
      rw [write_segments_nil] at h
      cases h
      rfl
  | cons entry rest ih =>
      obtain ⟨hentry, hrest⟩ := List.forall_mem_cons.1 hfits
      simp only [write_segments_cons] at h
      simp only [visitAll, run_bind, run_visit hentry]
      generalize sink.write (source.fetched entry).segment = first at h ⊢
      obtain ⟨mid, _ | fault⟩ := first
      · simp only [run_bind, ih hrest h]
        rfl
      · cases h

/-- If the segments do not all fit, there is a first entry whose segment does
not, and the run ends with the fault of its product. -/
theorem run_visitAll_of_cut {entries : List Entry}
    (hfits : ∀ entry ∈ entries, (source.fetched entry).Fits) {sink after : Sink}
    {fault : WriteFault}
    (h : sink.write (source.segments entries) = (after, some fault)) :
    ∃ front entry back, entries = front ++ entry :: back ∧
      (sink.write (source.segments front)).2 = none ∧
      (sink.write (source.segments (front ++ [entry]))).2 = some fault ∧
      (visitAll .ofSink source.fixed entries).run sink =
        (.error (.product entry.product fault), after) := by
  induction entries generalizing sink with
  | nil =>
      rw [write_segments_nil] at h
      cases h
  | cons entry rest ih =>
      obtain ⟨hentry, hrest⟩ := List.forall_mem_cons.1 hfits
      simp only [write_segments_cons] at h
      cases hfirst : sink.write (source.fetched entry).segment with
      | mk mid failed =>
          cases failed with
          | some first =>
              -- the cut is in this segment
              simp only [hfirst, Prod.mk.injEq, Option.some.injEq] at h
              obtain ⟨rfl, rfl⟩ := h
              refine ⟨[], entry, rest, rfl, ?_, ?_, ?_⟩
              · rw [write_segments_nil]
              · simp only [List.nil_append, write_segments_cons, hfirst]
              · simp only [visitAll, run_bind, run_visit hentry, hfirst]
                rfl
          | none =>
              simp only [hfirst] at h
              obtain ⟨front, cut, back, hsplit, hfront, hcut, hrun⟩ := ih hrest h
              refine ⟨entry :: front, cut, back, by rw [hsplit]; rfl, ?_, ?_, ?_⟩
              · simpa only [write_segments_cons, hfirst] using hfront
              · simpa only [List.cons_append, write_segments_cons, hfirst] using hcut
              · simp only [visitAll, run_bind, run_visit hentry, hfirst, hrun]
                rfl

end Entries

end CounterTables
