import CounterTables.Json.Numeral
import CounterTables.Document.Skipped

/-!
# Fields of a record

The readings of a record's fields. Where a field may be missing, `null` counts
as missing too.
-/

namespace CounterTables.Document

open CounterTables.Number (twoPow)

/-- The members of a value that must be an object. -/
def asObject : Json → Except Reason Json.Fields
  | .object fields => .ok fields
  | other => .error (.notObject other.kindName)

/-- The text of a field that may be missing, which makes it empty. -/
def optionalText (record : Json.Fields) (field : String) : Except Reason String :=
  match record.get? field with
  | none => .ok ""
  | some .null => .ok ""
  | some (.string text) => .ok text
  | some other => .error (.fieldNotString field other.kindName)

/-- The text of a field that must be there. -/
def requiredText (record : Json.Fields) (field : String) : Except Reason String :=
  match record.get? field with
  | none => .error (.missingField field)
  | some .null => .error (.missingField field)
  | some (.string text) => .ok text
  | some other => .error (.fieldNotString field other.kindName)

/-- The names that a list holds, the list being the value of `field`. -/
def readNames (field : String) : List Json → Except Reason (List String)
  | [] => .ok []
  | .string name :: rest => (readNames field rest).map (name :: ·)
  | other :: _ => .error (.fieldNotStrings field other.kindName)

/-- The names listed in a field that may be missing, which makes the list
empty. -/
def optionalNames (record : Json.Fields) (field : String) :
    Except Reason (List String) :=
  match record.get? field with
  | none => .ok []
  | some .null => .ok []
  | some (.array items) => readNames field items
  | some other => .error (.fieldNotArray field other.kindName)

/-- The event code in the field `code`: a whole number, or text. -/
def eventCode (record : Json.Fields) : Except Reason EventCode :=
  match record.get? "code" with
  | none => .error (.missingField "code")
  | some .null => .error (.missingField "code")
  | some (.string text) => (EventCode.parse text).mapError .codeFault
  | some (.number (.integer value)) => (EventCode.ofInt value).mapError .codeFault
  | some (.number number) => .error (.codeNotInteger number.text)
  | some other => .error (.codeNotScalar other.kindName)

/-- The value of an attribute. Whole numbers of 64 bits with sign stay numbers;
all other scalars are kept as text. -/
def scalar : Json → Except Reason Scalar
  | .string text => .ok (.text text)
  | .number (.integer value) =>
      if value < twoPow 63 then .ok (.integer value) else .ok (.text (toString value))
  | .number number => .ok (.text number.text)
  | .bool flag => .ok (.text (if flag then "true" else "false"))
  | other => .error (.attributeNotScalar other.kindName)

end CounterTables.Document
