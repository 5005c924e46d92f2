import Mathlib
import CounterTables.Proofs.Document.EventList
import CounterTables.Proofs.Run.Segments
import CounterTables.Run.Architecture

/-!
# A run over a list of events

A run over the architecture's list of events reads everything before it writes
anything: the licence, the input, and the JSON text in it. Whichever is the
first that cannot be had ends the run with its own fault, whatever the output
is, and leaves the output alone. Otherwise the output is the licence and then
one line per event, which depends on this event only.

## Main results

* `ListSetup.readable_or_unreadable` — the two ways of a run.
* `ListSetup.Unreadable.run_eq` — a run that cannot read.
* `ListSetup.Reads.run_of_written` — a run that reads, on a sink that takes its
  output.
* `run_lists_events` — what a list comes to, and what is written of it.
-/

namespace CounterTables

open CounterTables.Document
  (Architecture ListAccounted listAccounted_iff readArchitecture)
open CounterTables.Layout (align align_eq_some_iff architectureLine architectureLines
  architectureNameWidth areLaidOut lineText padded quote textOf)
open CounterTables.Text (Utf8.encode)

/-! ## Lines -/

/-- The line of an event: its name, with a comma, in a column of its own, its
code, and its name in lower case. -/
def listedLine (event : Event) : String :=
  "WPERF_ARMV8_ARCH_EVENTS(" ++ padded architectureNameWidth (event.name ++ ",") ++
    event.code.hex4 ++ ", " ++ quote event.lowerName ++ ")\n"

theorem architectureLine_eq (event : Event) :
    architectureLine event =
      some ["WPERF_ARMV8_ARCH_EVENTS", "(",
        padded architectureNameWidth (event.name ++ ","), event.code.hex4, ", ",
        quote event.lowerName, ")\n"] := by
  have halign : align architectureNameWidth (event.name ++ ",") =
      some (padded architectureNameWidth (event.name ++ ",")) :=
    align_eq_some_iff.2 ⟨by decide, rfl⟩
  rw [architectureLine, halign]
  rfl

theorem lineText_architectureLine (event : Event) :
    lineText (architectureLine event) = listedLine event := by
  have hjoin : ∀ name code lower : String,
      String.join ["WPERF_ARMV8_ARCH_EVENTS", "(", name, code, ", ", lower, ")\n"] =
        "WPERF_ARMV8_ARCH_EVENTS(" ++ name ++ code ++ ", " ++ lower ++ ")\n" := by
    intro name code lower
    simp [String.ext_iff]
  rw [architectureLine_eq, lineText, Option.getD_some]
  exact hjoin _ _ _

example : listedLine ⟨"CPU_CYCLES", ⟨17, by decide⟩, "", ""⟩ =
    "WPERF_ARMV8_ARCH_EVENTS(CPU_CYCLES,                                       " ++
      "0x0011, \"cpu_cycles\")\n" := by
  decide

theorem areLaidOut_architectureLines (events : List Event) :
    areLaidOut (architectureLines events) = true := by
  simp [areLaidOut, architectureLines, architectureLine_eq]

theorem textOf_architectureLines (events : List Event) :
    textOf (architectureLines events) = String.join (events.map listedLine) := by
  rw [Layout.textOf_of_areLaidOut (areLaidOut_architectureLines events),
    architectureLines, List.map_map]
  exact congrArg String.join (List.map_congr_left fun event _ =>
    lineText_architectureLine event)

/-! ## Runs -/

/-- Answers that are the same whatever a run has written. -/
def Responder.fixed (respond : Responder Id) : Responder (StateM Sink) :=
  fun url => pure (respond url)

/-- What a run over a list starts from. -/
structure ListSetup where
  location : String
  licensePath : Option String
  files : FileReader Id
  respond : Responder Id

namespace ListSetup

/-- The run with its output in a sink: how it ends, and the sink in the end. -/
def run (setup : ListSetup) (sink : Sink) : Except RunFault (List Skipped) × Sink :=
  (runArchitecture setup.location setup.licensePath (FileReader.fixed setup.files)
    (Responder.fixed setup.respond) .ofSink).run sink

/-- The text of the licence, if there is one. -/
def license (setup : ListSetup) : Except RunFault (Option String) :=
  readLicense setup.files setup.licensePath

/-- What is found at the location. -/
def input (setup : ListSetup) : Except SourceFault (List UInt8) :=
  readLocation setup.files setup.respond setup.location

/-- The licence can be read, and the input is the JSON text of a document. -/
structure Reads (setup : ListSetup) (license : Option String) (document : Json) :
    Prop where
  license_eq : setup.license = .ok license
  document_eq : ∃ bytes, setup.input = .ok bytes ∧ parseJson bytes = some document

/-- What is the first that cannot be read, as the fault that it makes. -/
inductive Unreadable (setup : ListSetup) : RunFault → Prop
  | license {path : String} {fault : FileFault} (hpath : setup.licensePath = some path)
      (hfault : readText (setup.files path) = .error fault) :
      Unreadable setup (.license path fault)
  | input {license : Option String} {fault : SourceFault}
      (hlicense : setup.license = .ok license) (hfault : setup.input = .error fault) :
      Unreadable setup (.input setup.location fault)
  | notJson {license : Option String} {bytes : List UInt8}
      (hlicense : setup.license = .ok license) (hinput : setup.input = .ok bytes)
      (hparse : parseJson bytes = none) :
      Unreadable setup (.notJson setup.location)

theorem license_of_path {setup : ListSetup} {path : String}
    (h : setup.licensePath = some path) :
    setup.license =
      ((readText (setup.files path)).map some).mapError (.license path) := by
  rw [license, h]
  rfl

theorem unreadable_of_license {setup : ListSetup} {fault : RunFault}
    (h : setup.license = .error fault) : setup.Unreadable fault := by
  cases hpath : setup.licensePath with
  | none =>
      rw [license, hpath] at h
      cases h
  | some path =>
      rw [license_of_path hpath] at h
      cases htext : readText (setup.files path) with
      | ok text =>
          rw [htext] at h
          cases h
      | error cause =>
          rw [htext] at h
          obtain rfl := Except.error.inj h
          exact .license hpath htext

theorem readable_or_unreadable (setup : ListSetup) :
    (∃ license document, setup.Reads license document) ∨
      ∃ fault, setup.Unreadable fault := by
  cases hlicense : setup.license with
  | error fault => exact .inr ⟨fault, unreadable_of_license hlicense⟩
  | ok license =>
      cases hinput : setup.input with
      | error fault => exact .inr ⟨_, .input hlicense hinput⟩
      | ok bytes =>
          cases hparse : parseJson bytes with
          | none => exact .inr ⟨_, .notJson hlicense hinput hparse⟩
          | some document =>
              exact .inl ⟨license, document, hlicense, bytes, hinput, hparse⟩

/-! ## Steps on a sink -/

theorem run_readLicense (setup : ListSetup) (sink : Sink) :
    (readLicense (FileReader.fixed setup.files) setup.licensePath).run sink =
      (setup.license, sink) :=
  run_readLicense_fixed setup.files setup.licensePath sink

theorem run_readLocation (setup : ListSetup) (sink : Sink) :
    (readLocation (FileReader.fixed setup.files) (Responder.fixed setup.respond)
      setup.location).run sink = (setup.input, sink) := by
  unfold input readLocation
  split <;> rfl

theorem run_of_license_error {setup : ListSetup} {fault : RunFault}
    (h : setup.license = .error fault) (sink : Sink) :
    setup.run sink = (.error fault, sink) := by
  rw [run, runArchitecture]
  simp only [run_bind, run_readLicense, h]
  rfl

/-- With its licence, a run reads the input, and nothing is written before. -/
theorem run_of_license {setup : ListSetup} {license : Option String}
    (h : setup.license = .ok license) (sink : Sink) :
    setup.run sink =
      match listIn setup.location setup.input with
      | .error fault => (.error fault, sink)
      | .ok list => (writeArchitecture .ofSink license list).run sink := by
  rw [run, runArchitecture]
  simp only [run_bind, run_readLicense, h, run_reportAll, run_readLocation]
  cases listIn setup.location setup.input with
  | error fault => rfl
  | ok list => simp only [run_bind, run_reportAll]

/-- A run that cannot read ends with the fault of what it cannot read, and
leaves the output alone. -/
theorem Unreadable.run_eq {setup : ListSetup} {fault : RunFault}
    (h : setup.Unreadable fault)
    (sink : Sink) : setup.run sink = (.error fault, sink) := by
  cases h with
  | license hpath hfault =>
      refine run_of_license_error ?_ sink
      rw [license_of_path hpath, hfault]
      rfl
  | input hlicense hfault =>
      rw [run_of_license hlicense, hfault]
      rfl
  | notJson hlicense hinput hparse =>
      rw [run_of_license hlicense, hinput]
      simp only [listIn, hparse]

/-- The output of a run in full: the licence, then the lines of the events. -/
def output (license : Option String) (list : Architecture) : String :=
  textOf (licenseHeader license) ++ String.join (list.events.map listedLine)

/-- The licence and the lines are written, and then the sink is flushed. -/
theorem run_writeArchitecture {license : Option String} {list : Architecture}
    {sink after : Sink} (h : sink.write (output license list) = (after, none)) :
    (writeArchitecture .ofSink license list).run sink =
      match after.flush with
      | some fault => (.error (.flush fault), after)
      | none => (.ok list.skipped, after) := by
  rw [output, Sink.write_append] at h
  rw [writeArchitecture]
  simp only [run_bind, run_write (areLaidOut_licenseHeader license)]
  generalize sink.write (textOf (licenseHeader license)) = header at h ⊢
  obtain ⟨mid, _ | fault⟩ := header
  · have hlines : mid.write (String.join (list.events.map listedLine)) =
        (after, none) := h
    simp only [run_bind, run_write (areLaidOut_architectureLines list.events),
      textOf_architectureLines, hlines]
    have hflush : Stage.ofSink.flush.run after = (after.flush, after) := rfl
    simp only [hflush]
    cases after.flush <;> rfl
  · cases h

/-- A run that reads, on a sink that takes its output, has the reports of the
list, unless the sink refuses to be flushed. -/
theorem Reads.run_of_written {setup : ListSetup} {license : Option String}
    {document : Json} (h : setup.Reads license document) {sink after : Sink}
    (hwrite : sink.write (output license (readArchitecture setup.location document)) =
      (after, none)) :
    setup.run sink =
      match after.flush with
      | some fault => (.error (.flush fault), after)
      | none => (.ok (readArchitecture setup.location document).skipped, after) := by
  obtain ⟨bytes, hinput, hparse⟩ := h.document_eq
  have hlist : listIn setup.location setup.input =
      .ok (readArchitecture setup.location document) := by
    rw [hinput]
    simp only [listIn, hparse]
  rw [run_of_license h.license_eq, hlist]
  exact run_writeArchitecture hwrite

end ListSetup

/-- **What a list of events comes to, and what is written of it.** Every entry
of the list of a document becomes one event or makes one report, in order, and a
list that is no array makes one report; so it is with what is read of any JSON
value, and with nothing else. A run that can read its licence and its input adds
to an output that takes everything the block of the licence and one line per
event, and ends with the reports. A run that cannot read one of them ends with
the fault of the first and adds nothing. -/
theorem run_lists_events :
    (∀ source document list,
      ListAccounted source document list ↔ list = readArchitecture source document) ∧
    ∀ setup : ListSetup,
      (∀ license document, setup.Reads license document →
        ∀ list, ListAccounted setup.location document list → ∀ written,
          setup.run ⟨none, false, written⟩ =
            (.ok list.skipped, ⟨none, false, written ++
              Utf8.encode (textOf (licenseHeader license) ++
                String.join (list.events.map listedLine))⟩)) ∧
      (∀ fault, setup.Unreadable fault → ∀ sink, setup.run sink =
        (.error fault, sink)) ∧
      ((∃ license document, setup.Reads license document) ∨
        ∃ fault, setup.Unreadable fault) := by
  refine ⟨fun _ _ _ => listAccounted_iff, fun setup => ⟨?_, ?_, ?_⟩⟩
  · intro license document hreads list hlist written
    obtain rfl := listAccounted_iff.1 hlist
    have hwrite : Sink.write ⟨none, false, written⟩
        (ListSetup.output license (readArchitecture setup.location document)) =
          (⟨none, false, written ++ Utf8.encode (ListSetup.output license
            (readArchitecture setup.location document))⟩, none) := rfl
    rw [hreads.run_of_written hwrite]
    rfl
  · exact fun fault hfault sink => hfault.run_eq sink
  · exact setup.readable_or_unreadable

/-! ## A list with every kind of entry -/

/-- Two events of one name, and between them an entry that is no object, one
with an empty name, and one with a code of more than 16 bits. -/
def repeatingList : Json :=
  .object [("events", .array [
    .object [("name", .string "CPU_CYCLES"), ("code", .string "0x11")],
    .null,
    .object [("name", .string ""), ("code", .number (.integer 1))],
    .object [("name", .string "HUGE"), ("code", .number (.integer 100000))],
    .object [("name", .string "CPU_CYCLES"), ("code", .number (.integer 8))]])]

def repeatingText : String :=
  "\x7b\"events\":[\x7b\"name\":\"CPU_CYCLES\",\"code\":\"0x11\"\x7d,null," ++
    "\x7b\"name\":\"\",\"code\":1\x7d,\x7b\"name\":\"HUGE\",\"code\":100000\x7d," ++
    "\x7b\"name\":\"CPU_CYCLES\",\"code\":8\x7d]\x7d"

/-- What the list comes to. -/
def repeatingOutcome : Architecture where
  events :=
    [⟨"CPU_CYCLES", ⟨17, by decide⟩, "", ""⟩, ⟨"CPU_CYCLES", ⟨8, by decide⟩, "", ""⟩]
  skipped := [⟨"armv8.json", .event, "#1", .notObject "null"⟩,
    ⟨"armv8.json", .event, "#2", .emptyName⟩,
    ⟨"armv8.json", .event, "HUGE", .codeFault (.outOfRange 100000)⟩]

def repeatingSetup : ListSetup where
  location := "armv8.json"
  licensePath := some "LICENSE"
  files path := .ok (Utf8.encode (if path = "LICENSE" then "BSD" else repeatingText))
  respond _ := .error "no answer"

theorem parseJson_repeatingText :
    parseJson (Utf8.encode repeatingText) = some repeatingList := by
  have hread : Json.read repeatingText = some repeatingList := by cbv
  rw [parseJson, Text.Utf8.decode?_encode, Option.bind_some, hread]

theorem repeatingOutcome_eq :
    repeatingOutcome = readArchitecture "armv8.json" repeatingList := by
  cbv

theorem repeatingSetup_lists_events :
    repeatingSetup.Reads (some "BSD") repeatingList ∧
    ListAccounted "armv8.json" repeatingList repeatingOutcome ∧
    repeatingSetup.run .unbounded =
      (.ok repeatingOutcome.skipped, ⟨none, false,
        Utf8.encode (textOf (licenseHeader (some "BSD")) ++
          String.join (repeatingOutcome.events.map listedLine))⟩) := by
  have hlicense : repeatingSetup.license = .ok (some "BSD") := by cbv
  have hinput : repeatingSetup.input = .ok (Utf8.encode repeatingText) := by cbv
  have hreads : repeatingSetup.Reads (some "BSD") repeatingList :=
    ⟨hlicense, _, hinput, parseJson_repeatingText⟩
  obtain ⟨haccounts, hruns⟩ := run_lists_events
  have houtcome : ListAccounted "armv8.json" repeatingList repeatingOutcome :=
    (haccounts _ _ _).2 repeatingOutcome_eq
  obtain ⟨hwritten, -, -⟩ := hruns repeatingSetup
  exact ⟨hreads, houtcome, hwritten _ _ hreads _ houtcome []⟩

end CounterTables
