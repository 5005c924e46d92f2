import CounterTables.Json.Reader
import CounterTables.Source.Catalog
import CounterTables.Source.Fault
import CounterTables.Text.Blank
import CounterTables.Text.Utf8

/-!
# Documents

A document whose text is a JSON object describes its product. Any other text is
an alias: it names the document of another product, and stands for what comes
before the first point.

## Main definitions

* `Document` — a described product or an alias.
* `aliasTarget` — the product that the text of an alias names.
* `Document.parse` — the document that bytes hold.
-/

namespace CounterTables

open CounterTables.Text (trim)

inductive Document
  | described (fields : Json.Fields)
  | alias (target : String)

/-- The product that the text of an alias names. -/
def aliasTarget (text : String) : String :=
  String.ofList (trim (beforePoint (trim text.toList)))

/-- The document with the given text. -/
def Document.ofText (text : String) : Document :=
  match Json.read text with
  | some (.object fields) => .described fields
  | _ => .alias (aliasTarget text)

/-- The document that bytes from `location` hold. -/
def Document.parse (location : String) (bytes : List UInt8) :
    Except SourceFault Document :=
  match Text.Utf8.decode? bytes with
  | some text => .ok (.ofText text)
  | none => .error (.notText location)

end CounterTables
