import CounterTables.Command.CommandLine
import CounterTables.Command.Stream
import CounterTables.Run.Architecture
import CounterTables.Run.Summary
import CounterTables.Run.Telemetry
import CounterTables.Settings.File

/-!
# Performing commands

A command is performed on a host. Its output is opened first, and only then is
anything read that goes into the tables; a fault on the way ends the command.
Tables go to the output file or to standard output, and what is told about them
is left to whoever asked for the command.

## Main definitions

* `Ending` — how a command ends that no fault ended.
* `Command.perform` — the three commands.
-/

namespace CounterTables

variable {m : Type → Type} [Monad m]

/-! ## Ends of commands -/

/-- How a command ends that no fault ended. -/
inductive Ending
  /-- Tables were written; there may be problems to tell of. -/
  | written (hasProblems : Bool) (summary : String)
  /-- There is something to print. -/
  | listing (text : String)

/-! ## Input and output -/

/-- Opens the output; without a path it is standard output. -/
def openOutput (host : Host m) : Option String → m (Except RunFault (Option host.File))
  | none => return .ok none
  | some path => return ((← host.create path).map some).mapError (.create path)

/-- Opens the output and performs a run with it. -/
def Host.runTo {α : Type} (host : Host m) (output : Option String)
    (run : StateT (Stream host.File) m (Except RunFault α)) :
    m (Except RunFault α) := do
  match ← openOutput host output with
  | .error fault => return .error fault
  | .ok target => host.withOutput target run

/-- The files of a host, for a run with its output in a stream. -/
def Host.files (host : Host m) : FileReader (StateT (Stream host.File) m) :=
  fun path => host.read path

/-- The answers to the requests of a host, for a run with its output in a
stream. -/
def Host.responses (host : Host m) : Responder (StateT (Stream host.File) m) :=
  fun url => host.request url

/-! ## Settings -/

/-- The settings of a file, or the standard ones. -/
def loadSettings (host : Host m) : Option String → m (Except SettingsFault Settings)
  | none => return .ok .standard
  | some path => Settings.load host.read path

namespace TelemetryOptions

/-- The options that take precedence over settings. -/
def overrides (options : TelemetryOptions) : Overrides :=
  ⟨options.url, options.file, options.sourceRoot, options.baseUrl, options.cpu,
    options.output, options.license⟩

/-- The settings after the options, if they are fit for a run. -/
def apply (options : TelemetryOptions) (settings : Settings) :
    Except SettingsFault Settings :=
  (settings.override options.overrides).bind fun settings =>
    settings.validate.map fun _ => settings

end TelemetryOptions

/-! ## Commands -/

/-- What is reported at the start of a run. -/
def startNotice (origin : Origin) : Log.Event :=
  .entry none ⟨.info, "pmu_tables::commands", "starting telemetry run",
    [("source", .plain origin.label)]⟩

/-- A run over products. -/
def Settings.perform (settings : Settings) (host : Host m) (log : Log.Event → m Unit) :
    m (Except RunFault RunReport) :=
  match settings.documentSource host.files host.responses with
  | .error fault => return .error (.settings fault)
  | .ok source =>
      host.runTo settings.output
        (runTelemetry settings host.files source (host.stage log))

def TelemetryOptions.perform (options : TelemetryOptions) (host : Host m)
    (log : Log.Event → m Unit) : m (Except RunFault RunReport) := do
  match (← loadSettings host options.config).bind options.apply with
  | .error fault => return .error (.settings fault)
  | .ok settings =>
      log (startNotice settings.origin)
      settings.perform host log

/-- Lists the catalog of a settings file. -/
def performList (config : Option String) (host : Host m) :
    m (Except RunFault String) := do
  match ← loadSettings host config with
  | .error fault => return .error (.settings fault)
  | .ok settings => return .ok settings.catalog.listing

def ArchitectureOptions.perform (options : ArchitectureOptions) (host : Host m)
    (log : Log.Event → m Unit) : m (Except RunFault (List Skipped)) :=
  host.runTo options.output
    (runArchitecture options.input options.license host.files
      host.responses (host.stage log))

/-- Performs a command, with its log. -/
def Command.perform (command : Command) (host : Host m) (log : Log.Event → m Unit) :
    m (Except RunFault Ending) := do
  match command with
  | telemetry options =>
      return (← options.perform host log).map fun report =>
        .written report.hasProblems report.summary
  | list config => return (← performList config host).map .listing
  | architecture options =>
      return (← options.perform host log).map fun skipped =>
        .written (!skipped.isEmpty) (skippedListing skipped)

end CounterTables
