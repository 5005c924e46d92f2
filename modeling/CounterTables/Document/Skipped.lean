import CounterTables.Json.Value
import CounterTables.Record.Record

/-!
# Records left out

A record, an attribute or a whole section of a document that cannot be used is
left out and reported with its reason; the rest of the document is not affected.
-/

namespace CounterTables

open CounterTables.Formula (SyntaxError)

/-- Why something was left out. `found` is the kind of value that stood
there. -/
inductive Reason
  | sectionNotObject (found : String)
  | sectionNotArray (found : String)
  | notObject (found : String)
  | emptyName
  | missingField (field : String)
  | fieldNotString (field found : String)
  | fieldNotArray (field found : String)
  | fieldNotStrings (field found : String)
  | codeNotInteger (number : String)
  | codeNotScalar (found : String)
  | codeFault (fault : EventCodeError)
  | attributeNotScalar (found : String)
  | formulaFault (fault : SyntaxError)
  deriving DecidableEq

def Reason.message : Reason → String
  | sectionNotObject found => s!"section expected an object, found {found}"
  | sectionNotArray found => s!"section expected an array, found {found}"
  | notObject found => s!"expected an object, found {found}"
  | emptyName => "record name is empty"
  | missingField field => s!"missing field '{field}'"
  | fieldNotString field found => s!"field '{field}' must be a string, found {found}"
  | fieldNotArray field found => s!"field '{field}' must be an array, found {found}"
  | fieldNotStrings field found => s!"field '{field}' must list strings, found {found}"
  | codeNotInteger number => s!"event code {number} is not an integer"
  | codeNotScalar found => s!"field 'code' must be a number or string, found {found}"
  | codeFault fault => fault.message
  | attributeNotScalar found => s!"attribute must be a scalar, found {found}"
  | formulaFault fault => s!"invalid formula: {fault.message}"

/-- Something left out: the product, the kind of record, its name, and the
reason. A section goes by its own name. -/
structure Skipped where
  product : String
  kind : RecordKind
  record : String
  reason : Reason
  deriving DecidableEq

def Skipped.message (skipped : Skipped) : String :=
  s!"{skipped.product}: skipped {skipped.kind.label} '{skipped.record}': " ++
    skipped.reason.message

end CounterTables
