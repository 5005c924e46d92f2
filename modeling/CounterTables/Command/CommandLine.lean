import CounterTables.Command.Option
import CounterTables.Log.Settings

/-!
# The command line

A command line names a subcommand and gives options. Options that concern the
log may stand before or after the subcommand; given in both places, the later
place counts.

## Main definitions

* `Command`, `LogOptions` — what is asked for.
* `CommandLine.parse` — what a command line asks for.
-/

namespace CounterTables

/-! ## Commands -/

/-- How output is coloured. -/
inductive ColourChoice
  | auto
  | always
  | never
  deriving DecidableEq

/-- The options that concern the log. -/
structure LogOptions where
  verbose : Nat
  quiet : Nat
  colour : ColourChoice
  level : Option Log.Level
  format : Log.Format
  file : Option String

structure TelemetryOptions where
  config : Option String
  url : Bool
  file : Bool
  sourceRoot : Option String
  baseUrl : Option String
  cpu : Option String
  output : Option String
  license : Option String

structure ArchitectureOptions where
  input : String
  output : Option String
  license : Option String

inductive Command
  | telemetry (options : TelemetryOptions)
  | list (config : Option String)
  | architecture (options : ArchitectureOptions)

structure CommandLine where
  log : LogOptions
  command : Command

/-! ## The options of each place -/

/-- Options about the log, known everywhere. -/
def logSpecs : List OptionSpec := [
  ⟨"verbose", some 'v', .counted⟩,
  ⟨"quiet", some 'q', .counted⟩,
  ⟨"color", none, .oneOf ["auto", "always", "never"]⟩,
  ⟨"log-level", none, .oneOf ["error", "warn", "info", "debug", "trace"]⟩,
  ⟨"log-format", none, .oneOf ["pretty", "compact", "json"]⟩,
  ⟨"log-file", none, .path⟩]

def telemetrySpecs : List OptionSpec := [
  ⟨"config", none, .path⟩,
  ⟨"url", none, .nothing⟩,
  ⟨"file", none, .nothing⟩,
  ⟨"source-root", none, .path⟩,
  ⟨"base-url", none, .text⟩,
  ⟨"cpu", some 'c', .text⟩,
  ⟨"output", some 'o', .path⟩,
  ⟨"license", none, .path⟩]

def listSpecs : List OptionSpec := [⟨"config", none, .path⟩]

def architectureSpecs : List OptionSpec := [
  ⟨"input", none, .text⟩,
  ⟨"output", some 'o', .path⟩,
  ⟨"license", none, .path⟩]

/-! ## Reading a command line -/

/-- The value of an option that was given. -/
def valueOf (given : List Given) (long : String) : Option String :=
  (given.find? fun g => g.long == long).map Given.value

def isGiven (given : List Given) (long : String) : Bool :=
  given.any fun g => g.long == long

/-- How often an option was given. -/
def countOf (given : List Given) (long : String) : Nat :=
  (given.filter fun g => g.long == long).length

/-- Whether two options were given that exclude each other. -/
def excludes (given : List Given) (one other : String) : Bool :=
  isGiven given one && isGiven given other

namespace LogOptions

def levelOf : String → Option Log.Level
  | "error" => some .error
  | "warn" => some .warn
  | "info" => some .info
  | "debug" => some .debug
  | "trace" => some .trace
  | _ => none

def formatOf : Option String → Log.Format
  | some "compact" => .compact
  | some "json" => .json
  | _ => .pretty

def colourOf : Option String → ColourChoice
  | some "always" => .always
  | some "never" => .never
  | _ => .auto

/-- The options about the log, from the places before and after the
subcommand. -/
def ofGiven (before after : List Given) : LogOptions :=
  let place (long : String) := if isGiven after long then after else before
  let value (long : String) := valueOf (place long) long
  { verbose := min 255 (countOf (place "verbose") "verbose")
    quiet := min 255 (countOf (place "quiet") "quiet")
    colour := colourOf (value "color")
    level := (value "log-level").bind levelOf
    format := formatOf (value "log-format")
    file := value "log-file" }

/-- Whether lines are coloured. Unless it is said, they are if they go to a
terminal. -/
def usesColour (options : LogOptions) (isTerminal : Bool) : Bool :=
  match options.colour with
  | .always => true
  | .never => false
  | .auto => options.file.isNone && isTerminal

/-- The settings of the log. -/
def settings (options : LogOptions) (isTerminal : Bool) : Log.Settings :=
  let limit : Log.Limit :=
    match options.level with
    | some level => some level
    | none => Log.Limit.ofRank (2 + options.verbose - options.quiet)
  { Log.Settings.standard with
    limit := limit
    usesEnvironment :=
      options.verbose == 0 && options.quiet == 0 && options.level.isNone
    ansi := options.usesColour isTerminal
    format := options.format
    file := options.file }

end LogOptions

namespace CommandLine

/-- The command with the options after it. -/
def commandOf (name : String) (given : List Given) : Except Interruption Command :=
  let value := valueOf given
  match name with
  | "telemetry" =>
      if excludes given "url" "file" then .error .usage
      else
        .ok (.telemetry
          { config := value "config"
            url := isGiven given "url"
            file := isGiven given "file"
            sourceRoot := value "source-root"
            baseUrl := value "base-url"
            cpu := value "cpu"
            output := value "output"
            license := value "license" })
  | "list" => .ok (.list (value "config"))
  | _ =>
      match value "input" with
      | some input => .ok (.architecture ⟨input, value "output", value "license"⟩)
      | none => .error .usage

/-- The options that a subcommand knows. -/
def specsOf : String → Option (List OptionSpec)
  | "telemetry" => some (telemetrySpecs ++ logSpecs)
  | "list" => some (listSpecs ++ logSpecs)
  | "arch-events" => some (architectureSpecs ++ logSpecs)
  | _ => none

/-- Requests for help on a subcommand. -/
def readHelp : List String → Interruption
  | [] => .help
  | [name] => if (specsOf name).isSome || name == "help" then .help else .usage
  | _ => .usage

/-- What a command line asks for. -/
def parse (arguments : List String) : Except Interruption CommandLine :=
  match scan logSpecs true [] arguments with
  | .error interruption => .error interruption
  | .ok ⟨_, []⟩ => .error .usage
  | .ok ⟨before, name :: rest⟩ =>
      if name == "help" then .error (readHelp rest)
      else
        match specsOf name with
        | none => .error .usage
        | some specs =>
            match scan specs false [] rest with
            | .error interruption => .error interruption
            | .ok ⟨_, _ :: _⟩ => .error .usage
            | .ok ⟨after, []⟩ =>
                if excludes before "verbose" "quiet" ||
                    excludes after "verbose" "quiet" then
                  .error .usage
                else
                  (commandOf name after).map fun command =>
                    ⟨.ofGiven before after, command⟩

end CommandLine

end CounterTables
