import CounterTables.Log.Settings
import CounterTables.Number.Literal
import CounterTables.Pattern.Reader
import CounterTables.Text.Letter

/-!
# Which log entries are shown

A filter is a list of directives, separated by commas. A directive sets a level
for the components whose path starts with its target, or for whatever happens
inside a span. Of the directives about a component the most specific one counts:
the one with the longest target, and of those the one that names a value. Of two
directives about the same thing the later one counts.

Spans have a level too. Where no directive goes down to it, spans are not opened
at all, and what a directive says about their inside has no effect.

## Main definitions

* `Directive`, `Directive.parse` — one directive.
* `Filter`, `Filter.parse` — a list of them.
* `Filter.shows`, `Filter.showsSpan` — whether an entry or the span of a product
  is shown.
-/

namespace CounterTables.Log

open CounterTables.Number (ofDigits)
open CounterTables.Text (isAlphanumeric pieces trim)

/-! ## Directives -/

/-- What the value of a span must be. -/
structure Wanted where
  text : String
  /-- What a text must match; numbers and truth values match no text. -/
  pattern : Option Pattern

/-- A value that must be there. -/
structure WantedField where
  name : String
  wanted : Option Wanted

structure Directive where
  limit : Limit
  /-- The start of the paths of components. -/
  target : Option String
  /-- The name of a span. -/
  span : Option String
  field : Option WantedField

namespace Directive

/-! ### Levels -/

/-- The limit with a name. -/
def namedLimit? (name : String) : Option Limit :=
  (List.range 6).findSome? fun rank =>
    if (Limit.ofRank rank).name = name then some (Limit.ofRank rank) else none

/-- The limit of a name in any case, or of a number of levels. -/
def limit? (text : List Char) : Option Limit :=
  let digits := match text with
    | '+' :: rest => rest
    | text => text
  if !digits.isEmpty && digits.all Char.isDigit then
    if ofDigits digits ≤ 5 then some (Limit.ofRank (ofDigits digits)) else none
  else namedLimit? (String.ofList (text.map Char.toLower))

/-- The level after an equals sign; without one everything is shown. -/
def readLevel (text : List Char) : Option Limit :=
  if text.isEmpty then some (some .trace) else limit? text

/-! ### Values -/

/-- Whether the text is the exponent of a number, or nothing. -/
def isExponent (text : List Char) : Bool :=
  (Number.readExponent text).isSome

/-- Whether the text is a number, in figures or by name. -/
def isNumber (text : List Char) : Bool :=
  let unsigned := match text with
    | '+' :: rest => rest
    | '-' :: rest => rest
    | text => text
  if ["inf", "infinity", "nan"].contains
      (String.ofList (unsigned.map Char.toLower)) then
    true
  else
    let whole := unsigned.takeWhile Char.isDigit
    match unsigned.dropWhile Char.isDigit with
    | '.' :: rest =>
        !(whole.isEmpty && (rest.takeWhile Char.isDigit).isEmpty)
          && isExponent (rest.dropWhile Char.isDigit)
    | rest => !whole.isEmpty && isExponent rest

/-- What a value must be. -/
def readWanted (text : List Char) : Option Wanted :=
  if text == "true".toList || text == "false".toList || isNumber text then
    some ⟨String.ofList text, none⟩
  else (Pattern.parse text).map fun pattern => ⟨String.ofList text, some pattern⟩

/-- A value by its name, or by its name and what it must be. -/
def readField (text : List Char) : Option WantedField :=
  match pieces (· == '=') text with
  | [[]] => none
  | [name] => some ⟨String.ofList name, none⟩
  | name :: value :: _ =>
      (readWanted value).map fun wanted => ⟨String.ofList name, some wanted⟩
  | [] => none

/-! ### Whole directives

Blanks around a directive are no part of it. But what a directive consists of is
cut from the text with its blanks, by the places found in the text without them.
So blanks at the end belong to a level or a target that stands there, and blanks
at the start shift everything.
-/

/-- What follows the span: nothing, or an equals sign and a level. `text` has
the blanks, and `place` is where the rest stands in the text without them. -/
def readTail (text : List Char) (directive : Directive) (place : Nat) :
    List Char → Option Directive
  | [] => some directive
  | '=' :: _ =>
      (readLevel (text.drop (place + 1))).map fun limit =>
        { directive with limit := limit }
  | _ => none

/-- The value in braces and the bracket after them. -/
def readBraces (text : List Char) (directive : Directive) (place : Nat)
    (rest : List Char) : Option Directive :=
  let length := (rest.takeWhile (· != '\x7d')).length
  match rest.drop length with
  | _ :: ']' :: rest =>
      (readField ((text.drop place).take length)).bind fun field =>
        readTail text { directive with field := some field } (place + length + 2) rest
  | _ => none

/-- A span after its opening bracket. -/
def readSpan (text : List Char) (directive : Directive) (place : Nat)
    (rest : List Char) : Option Directive :=
  let length := (rest.takeWhile fun c => c != ']' && c != '\x7b').length
  let name := String.ofList ((text.drop place).take length)
  match rest.drop length with
  | ']' :: rest =>
      readTail text { directive with span := some name } (place + length + 1) rest
  | '\x7b' :: rest =>
      readBraces text
        { directive with span := if name.isEmpty then none else some name }
        (place + length + 1) rest
  | _ => none

/-- Characters that a directive without a span may start with. -/
def isStart (c : Char) : Bool :=
  c == '-' || c == ':' || c == '_' || isAlphanumeric c

/-- The directive that a text denotes: a level, or a target or span with or
without a level. -/
def parse (text : List Char) : Option Directive :=
  let all : Directive := ⟨some .trace, none, none, none⟩
  match trim text with
  | [] => none
  | '[' :: rest => readSpan text all 1 rest
  | first :: rest =>
      if !isStart first then none
      else
        let length := ((first :: rest).takeWhile fun c => c != '=' && c != '[').length
        let named := { all with target := some (String.ofList (text.take length)) }
        match (first :: rest).drop length with
        | [] =>
            match limit? text with
            | some limit => some { all with limit := limit }
            | none => some { all with target := some (String.ofList text) }
        | '=' :: _ =>
            (readLevel (text.drop (length + 1))).map fun limit =>
              { named with limit := limit }
        | _ :: rest => readSpan text named (length + 1) rest

/-! ### What directives are about -/

/-- Whether the directive is about a span or the values of one. -/
def isScoped (directive : Directive) : Bool :=
  directive.span.isSome || directive.field.isSome

/-- Whether the directive asks for a value and not only for its name. -/
def wantsValue (directive : Directive) : Bool :=
  directive.field.any fun field => field.wanted.isSome

/-- Whether the directive is about components wherever they are. -/
def isGeneral (directive : Directive) : Bool :=
  directive.span.isNone && !directive.wantsValue

/-- Whether the path of a component starts with the target. -/
def covers (directive : Directive) (target : String) : Bool :=
  match directive.target with
  | some start => start.toList.isPrefixOf target.toList
  | none => true

/-- The value that a directive asks for, as it is written. -/
def fieldText (directive : Directive) : Option (String × Option String) :=
  directive.field.map fun field => (field.name, field.wanted.map Wanted.text)

/-- Whether two directives are about the same thing. -/
def sameSubject (left right : Directive) : Bool :=
  left.target == right.target && left.span == right.span &&
    left.fieldText == right.fieldText

def targetSize (directive : Directive) : Nat :=
  directive.target.elim 0 fun target => target.length + 1

/-- Whether one of two directives about a component is less specific. -/
def isBelow (left right : Directive) : Bool :=
  if left.targetSize != right.targetSize then left.targetSize < right.targetSize
  else
    match left.field, right.field with
    | none, some _ => true
    | some left, some right => left.name < right.name
    | _, none => false

end Directive

/-! ## Filters -/

structure Filter where
  directives : List Directive

namespace Filter

/-- The filter that a text denotes. -/
def parse (text : String) : Option Filter :=
  let parts := (pieces (· == ',') text.toList).filter fun part => !part.isEmpty
  (parts.mapM Directive.parse).map Filter.mk

/-- The most specific of some directives; of equally specific ones the last. -/
def strongest (directives : List Directive) : Option Directive :=
  directives.foldl
    (fun best? directive =>
      match best? with
      | some best => if directive.isBelow best then some best else some directive
      | none => some directive) none

/-- The limit for a component, as far as it does not depend on spans. -/
def limitFor (filter : Filter) (target : String) (has : String → Bool) : Limit :=
  let relevant := filter.directives.filter fun directive =>
    directive.isGeneral && directive.covers target
      && directive.field.all fun field => has field.name
  (strongest relevant).bind Directive.limit

/-- The greatest of some limits. -/
def greatest (limits : List Limit) : Limit :=
  Limit.ofRank ((limits.map Limit.rank).foldl max 0)

/-- What no directive goes beyond. A directive that asks for the value of a span
goes all the way, because values are known only once spans are opened. -/
def ceiling (filter : Filter) : Limit :=
  if filter.directives.any Directive.wantsValue then some .trace
  else greatest (filter.directives.map Directive.limit)

/-! ## Spans of products -/

/-- The component that opens the spans of products. -/
def spanTarget : String := "pmu_cli::pipeline"

/-- The name of the spans of products, and of the value that they carry. -/
def spanName : String := "product"

/-- The directives that no later one about the same thing replaces. -/
def inForce : List Directive → List Directive
  | [] => []
  | directive :: rest =>
      if rest.any directive.sameSubject then inForce rest else directive :: inForce rest

/-- The directives about the spans of products. -/
def aboutSpans (filter : Filter) : List Directive :=
  (inForce (filter.directives.filter Directive.isScoped)).filter fun directive =>
    directive.covers spanTarget
      && (directive.span == none || directive.span == some spanName)
      && directive.field.all fun field => field.name == spanName

/-- Whether the spans of products are opened, and shown. -/
def showsSpan (filter : Filter) : Bool :=
  filter.ceiling.shows .info
    && (!filter.aboutSpans.isEmpty
      || (filter.limitFor spanTarget fun _ => true).shows .info)

/-- Whether a directive wants the span of a product. -/
def wants (directive : Directive) (product : String) : Bool :=
  (directive.field.bind WantedField.wanted).all fun wanted =>
    wanted.pattern.any fun pattern => pattern.fits product

/-- The limit inside the span of a product. -/
def limitInside (filter : Filter) (product : String) : Limit :=
  if filter.showsSpan then
    greatest ((filter.aboutSpans.filter (wants · product)).map Directive.limit)
  else none

/-- Whether an entry is shown, inside the span of a product or outside. -/
def shows (filter : Filter) (product : Option String) (entry : Entry) : Bool :=
  let has (name : String) :=
    name == "message" || entry.values.any fun value => value.1 == name
  Limit.shows (product.elim none filter.limitInside) entry.level
    || Limit.shows (filter.limitFor entry.target has) entry.level

end Filter

/-! ## The filter of a run -/

/-- The components of this program. -/
def components : List String :=
  ["pmu_cli", "pmu_formula", "pmu_ingest", "pmu_model", "pmu_normalize", "pmu_output"]

/-- Warnings of everything else, and up to the limit of this program's
components. -/
def defaultDirectives (limit : Limit) : String :=
  ",".intercalate ("warn" :: components.map fun name => name ++ "=" ++ limit.name)

/-- The filter for the settings and what the environment says. -/
def Settings.filter (settings : Settings) (environment : Option String) : Filter :=
  let fallback := (Filter.parse (defaultDirectives settings.limit)).getD ⟨[]⟩
  if settings.usesEnvironment then (environment.bind Filter.parse).getD fallback
  else fallback

end CounterTables.Log
