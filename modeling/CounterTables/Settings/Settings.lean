import CounterTables.Source.DocumentSource

/-!
# Settings of a run

Where the documents are, which products are wanted, and where the output goes.
Settings start from defaults, may come from a file, and may be overridden by
options.

## Main definitions

* `Origin` — documents behind a base URL, or below a directory that may not be
  known yet.
* `Settings` and `Overrides`.
* `Settings.override` — the settings with options applied.
* `Settings.entries`, `Settings.documentSource`, `Settings.validate`.
-/

namespace CounterTables

/-! ## Settings -/

/-- Where documents are read from. -/
inductive Origin
  | url (base : String)
  | directory (root : Option String)
  deriving DecidableEq

/-- Where the published documents are. -/
def publishedBase : String :=
  "https://gitlab.arm.com/telemetry-solution/telemetry-solution/-/raw/main/data/pmu/cpu/"

namespace Origin

def standard : Origin := url publishedBase

/-- How messages refer to the origin. -/
def label : Origin → String
  | url base => base
  | directory (some root) => root
  | directory none => "<unset directory>"

end Origin

structure Settings where
  origin : Origin
  catalog : Catalog
  /-- The product or document that alone is wanted. -/
  cpu : Option String
  /-- The file that goes before the tables as a comment. -/
  license : Option String
  /-- The file that the tables are written to. -/
  output : Option String
  deriving DecidableEq

def Settings.standard : Settings := ⟨.standard, .standard, none, none, none⟩

/-- Options that take precedence over settings. -/
structure Overrides where
  url : Bool
  file : Bool
  sourceRoot : Option String
  baseUrl : Option String
  cpu : Option String
  output : Option String
  license : Option String
  deriving DecidableEq

/-! ## Faults -/

inductive SettingsFault
  /-- The file cannot be read. -/
  | unreadable (path : String) (fault : FileFault)
  /-- The text is not a settings file. -/
  | invalid (path : String)
  | conflictingSources
  | baseUrlWithDirectory
  | sourceRootWithUrl
  | missingSourceRoot
  | source (fault : SourceFault)
  deriving DecidableEq

namespace SettingsFault

def message : SettingsFault → String
  | unreadable path fault => s!"failed to read config file {path}: {fault.message}"
  | invalid path => s!"invalid config file {path}"
  | conflictingSources => "'--url' and '--file' are mutually exclusive"
  | baseUrlWithDirectory => "'--base-url' only applies to URL input"
  | sourceRootWithUrl => "'--source-root' only applies to directory input (use --file)"
  | missingSourceRoot =>
      "directory input requires a source root (use --source-root or [source] root)"
  | source fault => fault.message

/-- The message, and that of the fault behind it. -/
def chain : SettingsFault → List String
  | unreadable path fault => [(unreadable path fault).message, fault.message]
  | source fault => fault.chain
  | fault => [fault.message]

end SettingsFault

/-! ## Overriding -/

namespace Origin

/-- The origin after the options that choose between the two kinds. Choosing the
kind that is there already keeps it as it is. -/
def choose (overrides : Overrides) (origin : Origin) : Origin :=
  if overrides.file then
    match origin with
    | directory root => directory root
    | url _ => directory none
  else if overrides.url then
    match origin with
    | url base => url base
    | directory _ => standard
  else origin

/-- The origin with the option for its place applied; the option for the other
kind of place is refused. -/
def relocate (overrides : Overrides) : Origin → Except SettingsFault Origin
  | url base =>
      if overrides.sourceRoot.isSome then .error .sourceRootWithUrl
      else .ok (url (overrides.baseUrl.getD base))
  | directory root =>
      if overrides.baseUrl.isSome then .error .baseUrlWithDirectory
      else .ok (directory (overrides.sourceRoot <|> root))

end Origin

namespace Settings

/-- The settings with options applied. -/
def override (settings : Settings) (overrides : Overrides) :
    Except SettingsFault Settings :=
  if overrides.url && overrides.file then .error .conflictingSources
  else
    ((settings.origin.choose overrides).relocate overrides).map fun origin =>
      { settings with
        origin := origin
        cpu := overrides.cpu <|> settings.cpu
        output := overrides.output <|> settings.output
        license := overrides.license <|> settings.license }

/-! ## Use -/

/-- The entries that are wanted, in the order of the catalog. -/
def entries (settings : Settings) : Except SettingsFault (List Entry) :=
  match settings.catalog.select settings.cpu with
  | some entries => .ok entries
  | none => .error (.source (.unknownProduct (settings.cpu.getD "")))

/-- The source of documents. -/
def documentSource {m : Type → Type} [Monad m] (settings : Settings)
    (files : FileReader m)
    (respond : Responder m) : Except SettingsFault (DocumentSource m) :=
  match settings.origin with
  | .url base => .ok (.served respond base)
  | .directory (some root) => .ok (.directory files root)
  | .directory none => .error .missingSourceRoot

/-- The first fault that shows before any document is read. -/
def validate (settings : Settings) : Except SettingsFault Unit :=
  match settings.origin with
  | .directory none => .error .missingSourceRoot
  | _ => settings.entries.map fun _ => ()

end Settings

end CounterTables
