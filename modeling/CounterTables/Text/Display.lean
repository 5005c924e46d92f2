import CounterTables.Text.DisplayTable
import CounterTables.Text.Letter

/-!
# Quoted text

A text in quotes, with an escape for everything that cannot be seen.

## Main definitions

* `showChar` — a character as it stands between quotes.
* `inQuotes` — the text in quotes.
-/

namespace CounterTables.Text

/-! ## Quotes -/

/-- A character shown by its code. -/
def showCode (c : Char) : List Char :=
  ['\\', 'u', '\x7b'] ++ Nat.toDigits 16 c.toNat ++ ['\x7d']

/-- How a character is shown between quotes. -/
def showChar (c : Char) : List Char :=
  if c = '\x00' then ['\\', '0']
  else if c = '\t' then ['\\', 't']
  else if c = '\r' then ['\\', 'r']
  else if c = '\n' then ['\\', 'n']
  else if c = '"' then ['\\', '"']
  else if c = '\\' then ['\\', '\\']
  else if c < ' ' ∨ c = '\x7f' then showCode c
  else if c.toNat < 128 then [c]
  else if inRanges DisplayTable.codedRanges c.toNat then showCode c
  else [c]

/-- The text in quotes. -/
def inQuotes (text : String) : String :=
  String.ofList ('"' :: text.toList.flatMap showChar ++ ['"'])

end CounterTables.Text
