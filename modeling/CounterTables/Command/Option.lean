/-!
# Options on a command line

The options of one place of a command line: before the subcommand, or after it.
An option has a full name and perhaps a letter. Its value may not start with a
dash unless it is joined to the option; a lone dash is a value. An option that
is not counted may be given once in each place.

## Main definitions

* `OptionSpec` — an option that a place knows.
* `scan` — the options given in a place, up to the first argument that is none.
-/

namespace CounterTables

/-! ## Options -/

/-- What an option takes. -/
inductive OptionValue
  | nothing
  /-- Nothing, and the option may be repeated. -/
  | counted
  | text
  /-- A text that may not be empty. -/
  | path
  | oneOf (choices : List String)
  deriving DecidableEq

structure OptionSpec where
  long : String
  short : Option Char
  value : OptionValue

/-- An option that was given, with its value. -/
structure Given where
  long : String
  value : String

/-- Why arguments cannot be carried out as they are. -/
inductive Interruption
  /-- The arguments are wrong. -/
  | usage
  | help
  | version
  deriving DecidableEq

namespace OptionSpec

/-- Whether the option stands alone. -/
def standsAlone (spec : OptionSpec) : Bool :=
  spec.value == .nothing || spec.value == .counted

/-- Whether a text is a value of the option. -/
def accepts (spec : OptionSpec) (value : String) : Bool :=
  match spec.value with
  | .path => !value.isEmpty
  | .oneOf choices => choices.contains value
  | _ => true

/-- The options given so far and this one. -/
def give (spec : OptionSpec) (value : String) (given : List Given) :
    Except Interruption (List Given) :=
  if !spec.accepts value then .error .usage
  else if spec.value != .counted && given.any (fun g => g.long == spec.long) then
    .error .usage
  else .ok (given ++ [⟨spec.long, value⟩])

end OptionSpec

/-! ## Reading -/

/-- The special options of one place. -/
def special? (hasVersion : Bool) (long : String) : Option Interruption :=
  if long == "help" then some .help
  else if hasVersion && long == "version" then some .version
  else none

def specialShort? (hasVersion : Bool) (short : Char) : Option Interruption :=
  if short == 'h' then some .help
  else if hasVersion && short == 'V' then some .version
  else none

/-- Whether an argument can be the value of the option before it. -/
def isValue (argument : String) : Bool :=
  argument == "-" || !argument.startsWith "-"

/-- What was read of a place: its options, and the arguments from the first on
that is no option. -/
structure OptionScan where
  given : List Given
  rest : List String

/-- What is known when options have been named: all of them, or all but the
value of the last. -/
inductive NamedOption
  | done (given : List Given)
  | awaits (spec : OptionSpec) (given : List Given)

/-- Reads the letters behind a single dash. The first option with a value takes
the letters that are left as its value. -/
def readLetters (specs : List OptionSpec) (hasVersion : Bool) (given : List Given) :
    List Char → Except Interruption NamedOption
  | [] => .ok (.done given)
  | letter :: rest =>
      match specialShort? hasVersion letter with
      | some interruption => .error interruption
      | none =>
          match specs.find? fun spec => spec.short == some letter with
          | none => .error .usage
          | some spec =>
              if spec.standsAlone then
                (spec.give "" given).bind fun given =>
                  readLetters specs hasVersion given rest
              else
                match rest with
                | [] => .ok (.awaits spec given)
                | '=' :: value => (spec.give (String.ofList value) given).map .done
                | value => (spec.give (String.ofList value) given).map .done

/-- Reads an option with its full name, after the two dashes. -/
def readLong (specs : List OptionSpec) (hasVersion : Bool) (given : List Given)
    (text : List Char) : Except Interruption NamedOption :=
  let name := String.ofList (text.takeWhile (· != '='))
  let value? := match text.dropWhile (· != '=') with
    | _ :: value => some (String.ofList value)
    | [] => none
  match special? hasVersion name, value? with
  | some interruption, none => .error interruption
  | some _, some _ => .error .usage
  | none, value? =>
      match specs.find? fun spec => spec.long == name with
      | none => .error .usage
      | some spec =>
          match spec.standsAlone, value? with
          | true, none => (spec.give "" given).map .done
          | true, some _ => .error .usage
          | false, some value => (spec.give value given).map .done
          | false, none => .ok (.awaits spec given)

/-- Reads the options of a place up to the first argument that is no option. Two
dashes alone end the options. -/
def scan (specs : List OptionSpec) (hasVersion : Bool) (given : List Given) :
    List String → Except Interruption OptionScan
  | [] => .ok ⟨given, []⟩
  | argument :: rest =>
      if isValue argument then .ok ⟨given, argument :: rest⟩
      else
        match argument.toList with
        | ['-', '-'] => if rest.isEmpty then .ok ⟨given, []⟩ else .error .usage
        | _ :: letters =>
            let named :=
              match letters with
              | '-' :: text => readLong specs hasVersion given text
              | letters => readLetters specs hasVersion given letters
            match named with
            | .error interruption => .error interruption
            | .ok (.done given) => scan specs hasVersion given rest
            | .ok (.awaits spec given) =>
                match rest with
                | value :: rest =>
                    if isValue value then
                      match spec.give value given with
                      | .ok given => scan specs hasVersion given rest
                      | .error interruption => .error interruption
                    else .error .usage
                | [] => .error .usage
        | [] => .error .usage

end CounterTables
