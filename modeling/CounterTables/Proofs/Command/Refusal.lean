import Mathlib
import CounterTables.Proofs.Command.BeforeWriting
import CounterTables.Proofs.Document.Reports

/-!
# Commands that come to nothing

A command may end with a fault before it has anything to write. What becomes of
its output file then depends on when the fault shows. Settings are loaded and
checked before the output is opened, and so is the log; a fault among these
leaves the file as it was. The licence and the input are read after the output
was opened, and opening a file empties it.

## Main results

* `leftBehind_of_runTo` — a run with an output that is opened for it.
* `leftBehind_command` — each command that writes tables.
* `refused_command_output` — the output file after a command that came to
  nothing.
* `missing_input_empties_output` — a file that is lost.
-/

namespace CounterTables

/-! ## Faults and outputs -/

/-- The fault shows before the output is open. -/
def CommandFault.precedesOutput : CommandFault → Bool
  | log _ => true
  | run fault => fault.precedesOutput

/-- The file that a command is told to write to. -/
def Command.output? : Command → Option String
  | telemetry options => options.output
  | list _ => none
  | architecture options => options.output

/-! ## The output file -/

section Output

variable {path : String} (respond : Responder Id)

/-- What is delivered in the end, if nothing is held back, is nothing. -/
theorem content_release {file : Machine.OpenFile} (machine : Machine) :
    ((Stream.release (Machine.host respond)).run (.start (some file))
      machine).2.content path =
      machine.content path :=
  FileTree.content_overwrite_nil machine.tree file.names file.place path

/-- After a run, what it held back is delivered. -/
theorem withOutput_eq {α : Type} {run : Streamed α} {target : Option Machine.OpenFile}
    {stream : Stream Machine.OpenFile} {machine ended : Machine} {result : α}
    (h : run (.start target) machine = ((result, stream), ended)) :
    (Machine.host respond).withOutput target run machine =
      (result, ((Stream.release (Machine.host respond)).run stream ended).2) := by
  show ((run (.start target) machine).1.1,
    ((Stream.release (Machine.host respond)).run (run (.start target) machine).1.2
      (run (.start target) machine).2).2) = _
  rw [h]

/-- A run that fails before it writes leaves the file as it was opened. -/
theorem withOutput_of_writesLast {α : Type} {run : Streamed (Except RunFault α)}
    (hrun : WritesLast path run) {file : Machine.OpenFile} {machine machine' : Machine}
    {fault : RunFault}
    (h : (Machine.host respond).withOutput (some file) run machine =
      (.error fault, machine'))
    (hearly : fault.writeFault? = none) :
    fault.precedesOutput = false ∧ machine'.content path = machine.content path := by
  obtain ⟨⟨⟨result, stream⟩, ended⟩, hstopped⟩ :
      ∃ stopped, run (.start (some file)) machine = stopped := ⟨_, rfl⟩
  obtain ⟨rfl, rfl⟩ := Prod.mk.inj ((withOutput_eq respond hstopped).symm.trans h)
  obtain ⟨hfault, rfl, hcontent⟩ := hrun _ _ _ _ _ hstopped hearly
  exact ⟨hfault, (content_release respond ended).trans hcontent⟩

theorem openOutput_of_create {machine : Machine} {names : List String} {tree : FileTree}
    (h : machine.tree.create path = .ok (names, tree)) :
    openOutput (Machine.host respond) (some path) machine =
      (.ok (some ⟨names, 0⟩), { machine with tree := tree }) := by
  have hcreate : machine.create path =
      (.ok ⟨names, 0⟩, { machine with tree := tree }) := by
    rw [Machine.create, h]
  show (Except.mapError _ (Except.map _ (machine.create path).1),
    (machine.create path).2) = _
  rw [hcreate]
  rfl

/-- Opening the output fails and changes nothing, or empties the file. -/
theorem openOutput_cases (machine : Machine) :
    (∃ fault, openOutput (Machine.host respond) (some path) machine =
      (.error (.create path fault), machine)) ∨
    ∃ file machine', openOutput (Machine.host respond) (some path) machine =
        (.ok (some file), machine') ∧ machine'.content path = some [] := by
  cases hcreate : machine.tree.create path with
  | error fault =>
      have hrefused : machine.create path = (.error fault, machine) := by
        rw [Machine.create, hcreate]
      refine .inl ⟨fault, ?_⟩
      show (Except.mapError _ (Except.map _ (machine.create path).1),
        (machine.create path).2) = _
      rw [hrefused]
      rfl
  | ok created =>
      exact .inr ⟨_, _, openOutput_of_create respond hcreate,
        FileTree.content_create hcreate⟩

/-- What became of the file: it is as it was if the fault showed before the
output was open, and empty otherwise. -/
def LeftBehind (path : String) (early : Bool) (machine machine' : Machine) : Prop :=
  (early = true → machine'.content path = machine.content path) ∧
    (early = false → machine'.content path = some [])

/-- A fault before the output is open comes with an unchanged machine. -/
theorem leftBehind_of_precedes {α : Type} {cause fault : RunFault}
    {machine machine' : Machine} (hcause : cause.precedesOutput = true)
    (h : ((.error cause, machine) : Except RunFault α × Machine) =
      (.error fault, machine')) :
    LeftBehind path fault.precedesOutput machine machine' := by
  obtain ⟨hfault, rfl⟩ := Prod.mk.inj h
  obtain rfl := Except.error.inj hfault
  rw [hcause]
  exact ⟨fun _ => rfl, nofun⟩

/-- The output is opened before the run, which opens it empty. -/
theorem leftBehind_of_runTo {α : Type} {run : Streamed (Except RunFault α)}
    (hrun : WritesLast path run) {machine machine' : Machine} {fault : RunFault}
    (h : (Machine.host respond).runTo (some path) run machine =
      (.error fault, machine'))
    (hearly : fault.writeFault? = none) :
    LeftBehind path fault.precedesOutput machine machine' := by
  unfold Host.runTo at h
  rcases openOutput_cases respond machine with
    ⟨refused, hopen⟩ | ⟨file, opened, hopen, hempty⟩
  · rw [StateM.bind_eq _ hopen] at h
    exact leftBehind_of_precedes rfl h
  · rw [StateM.bind_eq _ hopen] at h
    -- the run says nothing to its output, which is delivered in the end
    obtain ⟨hfault, hcontent⟩ := withOutput_of_writesLast respond hrun h hearly
    rw [hfault]
    exact ⟨nofun, fun _ => hcontent.trans hempty⟩

end Output

/-! ## Commands -/

section Commands

variable {path : String} (respond : Responder Id)
  {log : Log.Event → StateM Machine Unit}

/-- Settings are loaded without a change to any file. -/
theorem exists_run_loadSettings (config : Option String) (machine : Machine) :
    ∃ found, loadSettings (Machine.host respond) config machine = (found, machine) := by
  cases config with
  | none => exact ⟨_, rfl⟩
  | some file => exact ⟨_, rfl⟩

/-- Options that name an output have it, and the settings are fit for a run. -/
theorem output_and_entries_of_apply {options : TelemetryOptions}
    {settings ready : Settings} (h : options.apply settings = .ok ready)
    (houtput : options.output = some path) :
    ready.output = some path ∧ ∃ entries, ready.entries = .ok entries := by
  obtain ⟨chosen, hoverride, hvalid⟩ := Document.bind_eq_ok_iff.1 h
  obtain ⟨_, hvalidate, rfl⟩ := Document.map_eq_ok_iff.1 hvalid
  constructor
  · unfold Settings.override at hoverride
    split at hoverride
    · cases hoverride
    · obtain ⟨origin, -, rfl⟩ := Document.map_eq_ok_iff.1 hoverride
      show (options.output <|> settings.output) = some path
      rw [houtput]
      rfl
  · unfold Settings.validate at hvalidate
    split at hvalidate
    · cases hvalidate
    · obtain ⟨entries, hentries, -⟩ := Document.map_eq_ok_iff.1 hvalidate
      exact ⟨entries, hentries⟩

theorem LeftBehind.of_content_eq {early : Bool} {machine between machine' : Machine}
    (h : LeftBehind path early between machine')
    (hcontent : between.content path = machine.content path) :
    LeftBehind path early machine machine' :=
  ⟨fun hearly => (h.1 hearly).trans hcontent, h.2⟩

theorem leftBehind_telemetry (hlog : Spares path log) {options : TelemetryOptions}
    (houtput : options.output = some path) {machine machine' : Machine}
    {fault : RunFault}
    (h : options.perform (Machine.host respond) log machine = (.error fault, machine'))
    (hearly : fault.writeFault? = none) :
    LeftBehind path fault.precedesOutput machine machine' := by
  unfold TelemetryOptions.perform at h
  obtain ⟨found, hload⟩ := exists_run_loadSettings respond options.config machine
  rw [StateM.bind_eq _ hload] at h
  cases happly : found.bind options.apply with
  | error refused =>
      rw [happly] at h
      exact leftBehind_of_precedes rfl h
  | ok settings =>
      rw [happly] at h
      obtain ⟨loaded, -, hready⟩ := Document.bind_eq_ok_iff.1 happly
      obtain ⟨hpath, entries, hentries⟩ := output_and_entries_of_apply hready houtput
      -- the first line of the log comes between the settings and the output
      have hnotice := hlog (startNotice settings.origin) machine
      refine LeftBehind.of_content_eq ?_ hnotice
      have hperform : settings.perform (Machine.host respond) log
          (log (startNotice settings.origin) machine).2 = (.error fault, machine') := h
      unfold Settings.perform at hperform
      cases hsource : settings.documentSource (Machine.host respond).files
          (Machine.host respond).responses with
      | error refused =>
          rw [hsource] at hperform
          exact leftBehind_of_precedes rfl hperform
      | ok source =>
          rw [hsource] at hperform
          dsimp only at hperform
          rw [hpath] at hperform
          exact leftBehind_of_runTo respond
            (runTelemetry_writesLast respond hentries source) hperform hearly

/-- The same of each command that writes tables. -/
theorem leftBehind_command (hlog : Spares path log) {command : Command}
    (houtput : command.output? = some path) {machine machine' : Machine}
    {fault : RunFault}
    (h : command.perform (Machine.host respond) log machine = (.error fault, machine'))
    (hearly : fault.writeFault? = none) :
    LeftBehind path fault.precedesOutput machine machine' := by
  have hinner : ∀ {α : Type} {ending : α → Ending}
      {found : Except RunFault α × Machine},
      (found.1.map ending, found.2) = (.error fault, machine') →
        found = (.error fault, machine') := by
    rintro α ending ⟨result | result, ended⟩ heq
    · obtain ⟨hresult, rfl⟩ := Prod.mk.inj heq
      rw [Except.error.inj hresult]
    · cases (Prod.mk.inj heq).1
  cases command with
  | list config => cases houtput
  | telemetry options =>
      exact leftBehind_telemetry respond hlog houtput (hinner h) hearly
  | architecture options =>
      have hrun : (Machine.host respond).runTo options.output
          (runArchitecture options.input options.license (Machine.host respond).files
            (Machine.host respond).responses
            ((Machine.host respond).stage log)) machine =
          (.error fault, machine') := hinner h
      have hpath : options.output = some path := houtput
      rw [hpath] at hrun
      exact leftBehind_of_runTo respond
        (runArchitecture_writesLast respond hlog options.input options.license)
        hrun hearly

/-! ## The log -/

/-- Bytes are added to a file other than the one that the path leads to. -/
theorem content_host_append {file : String} (hapart : FileTree.Apart file path)
    (bytes : List UInt8) (machine : Machine) :
    ((Machine.host respond).append file bytes machine).2.content path =
      machine.content path := by
  show (machine.append file bytes).2.content path = _
  unfold Machine.append
  cases happend : machine.tree.append file bytes with
  | error fault => rfl
  | ok tree => exact FileTree.content_append happend hapart

/-- A log in another file, or on standard error, spares the output. -/
theorem spares_logEvent {settings : Log.Settings} (filter : Log.Filter)
    (hfile : ∀ file, settings.file = some file → FileTree.Apart file path) :
    Spares path ((Machine.host respond).logEvent settings filter) := by
  intro event machine
  unfold Host.logEvent
  cases Log.line? settings filter event with
  | none => rfl
  | some line =>
      cases hsome : settings.file with
      | none => rfl
      | some file => exact content_host_append respond (hfile file hsome) _ machine

end Commands

/-! ## Command lines -/

section Lines

variable {line : CommandLine} {path : String} (respond : Responder Id)

theorem openLog_of_append {file : String} {machine : Machine} {tree : FileTree}
    (h : machine.tree.append file [] = .ok tree) :
    (Machine.host respond).openLog (some file) machine =
      (.ok (), { machine with tree := tree }) := by
  show machine.append file [] = _
  rw [Machine.append, h]

/-- The log is opened first, which fails and changes nothing, or spares the
output. -/
theorem openLog_cases {file : Option String}
    (hlog : ∀ name, file = some name → FileTree.Apart name path) (machine : Machine) :
    (∃ fault, (Machine.host respond).openLog file machine = (.error fault, machine)) ∨
    ∃ machine', (Machine.host respond).openLog file machine = (.ok (), machine') ∧
      machine'.content path = machine.content path := by
  cases file with
  | none => exact .inr ⟨machine, rfl, rfl⟩
  | some name =>
      cases happend : machine.tree.append name [] with
      | error fault =>
          refine .inl ⟨fault, ?_⟩
          show machine.append name [] = _
          rw [Machine.append, happend]
      | ok tree =>
          exact .inr ⟨_, openLog_of_append respond happend,
            FileTree.content_append happend (hlog name rfl)⟩

theorem leftBehind_line (houtput : line.command.output? = some path)
    (hlog : ∀ file, line.log.file = some file → FileTree.Apart file path)
    (around : LogSurroundings) {machine machine' : Machine} {fault : CommandFault}
    (h : line.perform (Machine.host respond) around machine = (.error fault, machine'))
    (hearly : fault.writeFault? = none) :
    LeftBehind path fault.precedesOutput machine machine' := by
  unfold CommandLine.perform at h
  have hfile : (line.log.settings around.isTerminal).file = line.log.file := rfl
  rw [hfile] at h
  rcases openLog_cases respond hlog machine with
    ⟨refused, hopen⟩ | ⟨opened, hopen, hcontent⟩
  · rw [StateM.bind_eq _ hopen] at h
    obtain ⟨hfault, rfl⟩ := Prod.mk.inj h
    obtain rfl := Except.error.inj hfault
    exact ⟨fun _ => rfl, nofun⟩
  · rw [StateM.bind_eq _ hopen] at h
    refine LeftBehind.of_content_eq ?_ hcontent
    dsimp only at h
    generalize hperform : line.command.perform (Machine.host respond)
      ((Machine.host respond).logEvent (line.log.settings around.isTerminal)
        ((line.log.settings around.isTerminal).filter around.directives)) opened = ended
    obtain ⟨result, last⟩ := ended
    rw [StateM.bind_eq _ hperform] at h
    obtain ⟨hresult, rfl⟩ := Prod.mk.inj h
    cases result with
    | ok ending => cases hresult
    | error cause =>
        obtain rfl := Except.error.inj hresult
        exact leftBehind_command respond (spares_logEvent respond _ hlog)
          houtput hperform hearly

/-- A fault before the first line of a table is told of on standard error. -/
theorem execute_refused (around : LogSurroundings) {machine machine' : Machine}
    {fault : CommandFault}
    (h : line.perform (Machine.host respond) around machine = (.error fault, machine'))
    (hearly : fault.writeFault? = none) :
    line.execute (Machine.host respond) around machine =
      (1, { machine' with errors := machine'.errors ++ faultLine fault.message }) := by
  unfold CommandLine.execute
  rw [StateM.bind_eq _ h]
  show (Machine.host respond).fail fault machine' = _
  unfold Host.fail
  rw [hearly]
  rfl

end Lines

/-- **What a command that comes to nothing does to its output file.** Let a
command line name an output, and let its log go elsewhere. If it ends with a
fault before anything could be written, one line on standard error tells of it.
The output file is as it was just if the fault showed before the output was
opened, or the file was empty already; a fault of the licence or of the input
leaves it empty. -/
theorem refused_command_output {line : CommandLine} {path : String}
    (houtput : line.command.output? = some path)
    (hlog : ∀ file, line.log.file = some file → FileTree.Apart file path)
    (respond : Responder Id) (around : LogSurroundings) {machine machine' : Machine}
    {fault : CommandFault}
    (h : line.perform (Machine.host respond) around machine = (.error fault, machine'))
    (hearly : fault.writeFault? = none) :
    line.execute (Machine.host respond) around machine =
        (1, { machine' with errors := machine'.errors ++ faultLine fault.message }) ∧
      LeftBehind path fault.precedesOutput machine machine' ∧
      (machine'.content path = machine.content path ↔
        fault.precedesOutput = true ∨ machine.content path = some []) := by
  have hleft : LeftBehind path fault.precedesOutput machine machine' :=
    leftBehind_line respond houtput hlog around h hearly
  refine ⟨execute_refused respond around h hearly, hleft, ?_⟩
  constructor
  · intro hsame
    cases hwhen : fault.precedesOutput with
    | true => exact .inl rfl
    | false => exact .inr (hsame.symm.trans (hleft.2 hwhen))
  · rintro (hwhen | hempty)
    · exact hleft.1 hwhen
    · cases hwhen : fault.precedesOutput with
      | true => exact hleft.1 hwhen
      | false => exact (hleft.2 hwhen).trans hempty.symm

/-! ## An input that is missing -/

section Missing

variable (respond : Responder Id) {location : String} {fault : FileFault}
  {machine : Machine} (hurl : isUrl location = false)
  (hread : machine.tree.read location = .error fault)

include hurl hread

theorem readLocation_missing (stream : Stream Machine.OpenFile) :
    readLocation (Machine.host respond).files (Machine.host respond).responses location
        stream machine =
      ((.error (.file location fault), stream), machine) := by
  unfold readLocation
  rw [hurl]
  show ((Except.mapError _ (machine.tree.read location), stream), _) = _
  rw [hread]
  rfl

theorem runArchitecture_missing (log : Log.Event → StateM Machine Unit)
    (stream : Stream Machine.OpenFile) :
    runArchitecture location none (Machine.host respond).files
        (Machine.host respond).responses ((Machine.host respond).stage log)
        stream machine =
      ((.error (.input location (.file location fault)), stream), machine) := by
  have hlicense : readLicense (Machine.host respond).files none stream machine =
      ((.ok none, stream), machine) := rfl
  have hreport : ((Machine.host respond).stage log).reportAll (inputNotices location)
      stream machine = (((), stream), machine) := by
    unfold inputNotices
    rw [hurl]
    rfl
  refine (Streamed.bind_eq _ hlicense).trans ?_
  refine (Streamed.bind_eq _ hreport).trans ?_
  exact Streamed.bind_eq _ (readLocation_missing respond hurl hread stream)

end Missing

/-- The architecture's events, from a file that is not there, over the tables of
an earlier run. -/
def missingInput (logFile : Option String) : CommandLine :=
  ⟨⟨0, 0, .auto, none, .pretty, logFile⟩,
    .architecture ⟨"missing.json", some "tables.h", none⟩⟩

/-- Why it comes to nothing. -/
def missingFault : RunFault :=
  .input "missing.json" (.file "missing.json" .notFound)

/-- A working directory with files. -/
def directory (files : List (String × List UInt8)) : Machine :=
  .ofTree ⟨files.map fun file => ([file.1], .file file.2.toByteArray)⟩

/-- The output is open when the run ends at its input. -/
theorem perform_missingInput (respond : Responder Id) {logFile : Option String}
    {machine opened created : Machine} {file : Machine.OpenFile}
    (hlog : (Machine.host respond).openLog logFile machine = (.ok (), opened))
    (hopen : openOutput (Machine.host respond) (some "tables.h") opened =
      (.ok (some file), created))
    (hread : created.tree.read "missing.json" = .error .notFound) :
    (missingInput logFile).perform (Machine.host respond) ⟨none, false⟩ machine =
      (.error (.run missingFault),
        ((Stream.release (Machine.host respond)).run (.start (some file))
          created).2) := by
  have hurl : isUrl "missing.json" = false := by cbv
  have hoptions : ∀ log : Log.Event → StateM Machine Unit,
      ArchitectureOptions.perform ⟨"missing.json", some "tables.h", none⟩
        (Machine.host respond) log opened =
      (.error missingFault,
        ((Stream.release (Machine.host respond)).run (.start (some file))
          created).2) := by
    intro log
    refine (StateM.bind_eq _ hopen).trans ?_
    exact withOutput_eq respond (runArchitecture_missing respond hurl hread log _)
  have hcommand : ∀ log : Log.Event → StateM Machine Unit,
      (missingInput logFile).command.perform (Machine.host respond) log opened =
      (.error missingFault,
        ((Stream.release (Machine.host respond)).run (.start (some file)) created).2) :=
    fun log => StateM.bind_eq _ (hoptions log)
  refine (StateM.bind_eq _ hlog).trans ?_
  exact StateM.bind_eq _ (hcommand _)

theorem isPlainName_tables : FileTree.IsPlainName "tables.h" :=
  ⟨by decide, by decide, by decide, by decide, by decide, by decide⟩

theorem isPlainName_missing : FileTree.IsPlainName "missing.json" :=
  ⟨by decide, by decide, by decide, by decide, by decide, by decide⟩

theorem isPlainName_log : FileTree.IsPlainName "run.log" :=
  ⟨by decide, by decide, by decide, by decide, by decide, by decide⟩

def noAnswer : Responder Id := fun _ => .error "no answer"

def oldTables : List UInt8 := [0x6f, 0x6c, 0x64, 0x0a]

/-- The log goes to a file of its own, and the run comes to nothing. -/
theorem missingInput_refused :
    let before := directory [("tables.h", oldTables)]
    let after := directory [("tables.h", []), ("run.log", [])]
    (missingInput (some "run.log")).execute
      (Machine.host noAnswer) ⟨none, false⟩ before =
        (1, { after with errors := after.errors ++ faultLine missingFault.message }) ∧
      LeftBehind "tables.h" false before after := by
  intro before after
  have hapart : FileTree.Apart "run.log" "tables.h" :=
    isPlainName_log.apart isPlainName_tables (by decide)
  have hlog : (Machine.host noAnswer).openLog (some "run.log") before =
      (.ok (), directory [("run.log", []), ("tables.h", oldTables)]) :=
    openLog_of_append noAnswer (isPlainName_log.append_nil rfl rfl)
  have hopen : openOutput (Machine.host noAnswer) (some "tables.h")
      (directory [("run.log", []), ("tables.h", oldTables)]) =
        (.ok (some ⟨["tables.h"], 0⟩), after) :=
    openOutput_of_create noAnswer (isPlainName_tables.create rfl nofun)
  have hread : after.tree.read "missing.json" = .error .notFound :=
    isPlainName_missing.read_of_none rfl rfl
  have hperform : (missingInput (some "run.log")).perform (Machine.host noAnswer)
      ⟨none, false⟩ before = (.error (.run missingFault), after) :=
    perform_missingInput noAnswer hlog hopen hread
  have houtput : (missingInput (some "run.log")).command.output? =
      some "tables.h" := rfl
  have hfile : ∀ file, (missingInput (some "run.log")).log.file = some file →
      FileTree.Apart file "tables.h" := by
    rintro file hfile
    obtain rfl := Option.some.inj hfile
    exact hapart
  have h := refused_command_output houtput hfile noAnswer ⟨none, false⟩ hperform rfl
  exact ⟨h.1, h.2.1⟩

/-- An input that is missing costs the tables of the earlier run: the fault
shows before a table could be written, and the output is empty after it. -/
theorem missing_input_empties_output :
    let before := directory [("tables.h", oldTables)]
    let after := directory [("tables.h", [])]
    CommandLine.parse
        ["arch-events", "--input", "missing.json", "--output", "tables.h"] =
      .ok (missingInput none) ∧
    (missingInput none).perform (Machine.host noAnswer) ⟨none, false⟩ before =
      (.error (.run missingFault), after) ∧
    missingFault.writeFault? = none ∧
    before.content "tables.h" = some oldTables ∧
    after.content "tables.h" = some [] := by
  intro before after
  have hlog : (Machine.host noAnswer).openLog none before = (.ok (), before) := rfl
  have hopen : openOutput (Machine.host noAnswer) (some "tables.h") before =
      (.ok (some ⟨["tables.h"], 0⟩), after) :=
    openOutput_of_create noAnswer (isPlainName_tables.create rfl nofun)
  have hread : after.tree.read "missing.json" = .error .notFound :=
    isPlainName_missing.read_of_none rfl rfl
  refine ⟨by cbv, perform_missingInput noAnswer hlog hopen hread, rfl, ?_, ?_⟩
  · exact isPlainName_tables.content rfl
  · exact isPlainName_tables.content rfl

end CounterTables
