import CounterTables.Json.Numeral

/-!
# Writing JSON

The compact form: no blanks, keys in their order, and in strings only the quote,
the backslash and the characters below U+0020 escaped.
-/

namespace CounterTables.Json

/-- A hexadecimal digit in lower case. -/
def hexChar (digit : Nat) : Char :=
  Nat.digitChar digit

/-- The characters that stand for `c` between the quotes of a string. -/
def escape (c : Char) : List Char :=
  if c = '"' then ['\\', '"']
  else if c = '\\' then ['\\', '\\']
  else if c = '\x08' then ['\\', 'b']
  else if c = '\x0c' then ['\\', 'f']
  else if c = '\n' then ['\\', 'n']
  else if c = '\r' then ['\\', 'r']
  else if c = '\t' then ['\\', 't']
  else if c < ' ' then
    ['\\', 'u', '0', '0', hexChar (c.toNat / 16), hexChar (c.toNat % 16)]
  else [c]

/-- A string with its quotes. -/
def quoted (text : String) : String :=
  String.ofList ('"' :: text.toList.flatMap escape ++ ['"'])

mutual

/-- The compact text of a value. -/
def write : Json → String
  | null => "null"
  | bool flag => if flag then "true" else "false"
  | number value => value.text
  | string text => quoted text
  | array items => "[" ++ ",".intercalate (writeItems items) ++ "]"
  | object fields => "\x7b" ++ ",".intercalate (writeFields fields) ++ "\x7d"

def writeItems : List Json → List String
  | [] => []
  | item :: rest => write item :: writeItems rest

def writeFields : List (String × Json) → List String
  | [] => []
  | (key, value) :: rest => (quoted key ++ ":" ++ write value) :: writeFields rest

end

end CounterTables.Json
