import CounterTables.Settings.Settings
import CounterTables.Toml.Reader

/-!
# Settings files

A settings file is a TOML document. Unknown keys are ignored, but their values
must be readable. A structure is given as a table, as an array of its fields in
order, or as a date or time, which names none of its fields.

## Main definitions

* `Settings.ofToml` — the settings that a table gives.
* `Settings.parse` — the settings in the text of a file.
* `Settings.load` — the settings in a file.
-/

namespace CounterTables

open CounterTables.Number (twoPow)

namespace Settings

/-! ## Values -/

def asString : Toml → Option String
  | .string text => some text
  | _ => none

/-- The strings of an array. -/
def asStrings : Toml → Option (List String)
  | .array items => items.mapM asString
  | _ => none

/-- Whether an ignored value is readable where `least` to `limit` bounds whole
numbers. Values inside it are bounded alike. -/
def hasBigNumber (least limit : Int) : Toml → Bool
  | .integer value => value < least || limit ≤ value
  | .array items => anyBig items
  | .table entries => anyBigEntry entries
  | _ => false
where
  anyBig : List Toml → Bool
    | [] => false
    | item :: rest => hasBigNumber least limit item || anyBig rest
  anyBigEntry : List (String × Toml) → Bool
    | [] => false
    | (_, value) :: rest => hasBigNumber least limit value || anyBigEntry rest

/-- The fields of a structure by name: those of a table, the items of an array
in order, or none at all for a date or time. -/
def fieldsOf (names : List String) : Toml → Option (List (String × Toml))
  | .table entries => some entries
  | .array items => some (names.zip items)
  | .datetime _ => some []
  | _ => none

/-- A field that may be missing. -/
def optional {α : Type} (fields : List (String × Toml)) (name : String) (fallback : α)
    (read : Toml → Option α) : Option α :=
  match fields.lookup name with
  | none => some fallback
  | some value => read value

/-! ## Parts of the settings -/

/-- The origin under the mode that is named first. Whole numbers inside must fit
64 bits, and an array may hold nothing but the mode and the place. -/
def readOrigin (value : Toml) : Option Origin :=
  if hasBigNumber (-(twoPow 63 : Int)) (twoPow 64) value then none
  else
    let tagged :=
      match value with
      | .table entries =>
          (entries.lookup "mode").map fun mode => (mode, Toml.table entries)
      | .array (mode :: items) =>
          if items.length ≤ 1 then some (mode, Toml.array items) else none
      | _ => none
    tagged.bind fun (mode, place) =>
      match mode with
      | .string "url" =>
          (fieldsOf ["base_url"] place).bind fun fields =>
            (optional fields "base_url" publishedBase asString).map .url
      | .string "directory" =>
          (fieldsOf ["root"] place).bind fun fields =>
            (optional fields "root" none
              (fun root => (asString root).map some)).map .directory
      | _ => none

def readFamily (value : Toml) : Option Family := do
  let fields ← fieldsOf ["name", "documents"] value
  let name ← fields.lookup "name"
  let documents ← fields.lookup "documents"
  some ⟨← asString name, ← asStrings documents⟩

def readFamilies : Toml → Option (List Family)
  | .array items => items.mapM readFamily
  | _ => none

/-- A catalog that is given without families is empty. -/
def readCatalog (value : Toml) : Option Catalog :=
  (fieldsOf ["families"] value).bind fun fields =>
    (optional fields "families" [] readFamilies).map Catalog.mk

/-- The settings that a table gives; what it does not say keeps its default. -/
def ofToml (entries : List (String × Toml)) : Option Settings := do
  let text (name : String) :=
    optional entries name none fun value => (asString value).map some
  let origin ← optional entries "source" Origin.standard readOrigin
  let catalog ← optional entries "catalog" Catalog.standard readCatalog
  let cpu ← text "cpu"
  let license ← text "license"
  let output ← text "output"
  some ⟨origin, catalog, cpu, license, output⟩

/-! ## Files -/

/-- The settings in the text of the file called `origin`. -/
def parse (origin text : String) : Except SettingsFault Settings :=
  match (Toml.read text).bind ofToml with
  | some settings => .ok settings
  | none => .error (.invalid origin)

/-- The settings in the bytes of the file called `origin`. -/
def ofBytes (origin : String) (bytes : Except FileFault (List UInt8)) :
    Except SettingsFault Settings :=
  match readText bytes with
  | .error fault => .error (.unreadable origin fault)
  | .ok text => parse origin text

/-- The settings in a file. -/
def load {m : Type → Type} [Monad m] (files : FileReader m) (path : String) :
    m (Except SettingsFault Settings) :=
  return ofBytes path (← files path)

end Settings

end CounterTables
