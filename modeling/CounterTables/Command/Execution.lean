import CounterTables.Command.Performance
import CounterTables.Log.Format

/-!
# Running a command line

From the arguments to the exit code. The log's file is opened before the command
starts, and nothing else happens if that fails. Each line of the log goes to its
file or to standard error at once. A fault ends the program with one line on
standard error.

## Main definitions

* `CommandFault` — why a command line came to nothing.
* `CommandLine.perform` — performs a command with its log.
* `CommandLine.run` — performs what the arguments ask for.
-/

namespace CounterTables

variable {m : Type → Type} [Monad m]

/-! ## Other ends -/

namespace Interruption

/-- What a program prints when it is asked for its version. -/
def versionText : String := "pmu-tables 0.1.0\n"

def usageText : String :=
  "Usage: pmu-tables [OPTIONS] <COMMAND>\n\nCommands: telemetry, list, arch-events\n"

/-- The end of a program whose command line names no command to perform. -/
def perform (host : Host m) : Interruption → m Nat
  | .usage => do
      host.complain usageText
      return 2
  | .help => do
      host.print (Text.Utf8.encode usageText)
      return 0
  | .version => do
      host.print (Text.Utf8.encode versionText)
      return 0

end Interruption

/-! ## Logs -/

/-- What the surroundings say about the log. -/
structure LogSurroundings where
  /-- Directives for the filter. -/
  directives : Option String
  /-- Whether standard error is a terminal. -/
  isTerminal : Bool

namespace Host

/-- Opens the log's file, if there is one. -/
def openLog (host : Host m) : Option String → m (Except FileFault Unit)
  | none => return .ok ()
  | some path => host.append path []

/-- Adds a line to the log's file; without one it goes to standard error. -/
def logLine (host : Host m) (file : Option String) (line : String) : m Unit :=
  match file with
  | none => host.complain line
  | some path => do
      let _ ← host.append path (Text.Utf8.encode line)

/-- Logs an event, if it is shown. -/
def logEvent (host : Host m) (settings : Log.Settings) (filter : Log.Filter)
    (event : Log.Event) : m Unit :=
  match Log.line? settings filter event with
  | some line => host.logLine settings.file line
  | none => return ()

end Host

/-! ## Faults -/

/-- Why a command line came to nothing. -/
inductive CommandFault
  /-- The log's file cannot be opened. -/
  | log (fault : FileFault)
  | run (fault : RunFault)

namespace CommandFault

def message : CommandFault → String
  | log fault => "failed to initialize logging: " ++ fault.message
  | run fault => fault.message

/-- The fault of the output, if there was one. -/
def writeFault? : CommandFault → Option WriteFault
  | log _ => none
  | run fault => fault.writeFault?

end CommandFault

/-- The line that tells of a fault. -/
def faultLine (message : String) : String :=
  "error: " ++ message ++ "\n"

/-- The exit code of a command that could not lay out a line. -/
def layoutExitCode : Nat := 101

namespace Host

/-- Tells of a fault, and gives the exit code. -/
def fail (host : Host m) (fault : CommandFault) : m Nat := do
  if fault.writeFault? = some .tooWide then return layoutExitCode
  else
    host.complain (faultLine fault.message)
    return 1

/-- Tells how a command ended, and gives the exit code. -/
def finish (host : Host m) : Ending → m Nat
  | .written hasProblems summary => do
      host.complain summary
      return if hasProblems then 1 else 0
  | .listing text => do
      host.print (Text.Utf8.encode text)
      return 0

end Host

/-! ## Programs -/

namespace CommandLine

/-- Performs a command with its log. -/
def perform (line : CommandLine) (host : Host m) (around : LogSurroundings) :
    m (Except CommandFault Ending) := do
  let settings := line.log.settings around.isTerminal
  match ← host.openLog settings.file with
  | .error fault => return .error (.log fault)
  | .ok _ =>
      let filter := settings.filter around.directives
      return (← line.command.perform host (host.logEvent settings filter)).mapError .run

/-- Performs a command with its log, and tells how it ended. -/
def execute (line : CommandLine) (host : Host m) (around : LogSurroundings) :
    m Nat := do
  match ← line.perform host around with
  | .error fault => host.fail fault
  | .ok ending => host.finish ending

/-- The program: reads its arguments and performs what they ask for. -/
def run (arguments : List String) (host : Host m) (around : LogSurroundings) : m Nat :=
  match parse arguments with
  | .error interruption => interruption.perform host
  | .ok line => line.execute host around

end CommandLine

end CounterTables
