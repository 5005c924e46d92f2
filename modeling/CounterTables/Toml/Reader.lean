import CounterTables.Toml.Value
import CounterTables.Toml.Scalar

/-!
# Reading TOML

A document is a sequence of lines: a header, a key with its value, or nothing,
each with an optional comment. Values may be nested 80 deep. Reading stops at
the first fault and then has no result.

## Main definitions

* `readValue` — one value.
* `read` — a document.
-/

namespace CounterTables.Toml

/-! ## Values -/

/-- The items of an array up to its closing bracket. Line ends and comments may
stand between them, and a comma may follow the last. -/
def readArray (item : List Char → Option (Toml × List Char)) (limit : Nat) :
    Nat → List Toml → List Char → Option (Toml × List Char)
  | 0, _, _ => none
  | bound + 1, read, s =>
      match skipTrivia limit s with
      | none => none
      | some (']' :: rest) => some (.array read.reverse, rest)
      | some s =>
          match item s with
          | none => none
          | some (value, rest) =>
              match skipTrivia limit rest with
              | some (',' :: rest) => readArray item limit bound (value :: read) rest
              | some (']' :: rest) => some (.array (value :: read).reverse, rest)
              | _ => none

/-- A key, an equals sign and a value, with what `skip` passes over around the
sign. -/
def readPair (item : List Char → Option (Toml × List Char))
    (skip : List Char → Option (List Char))
    (limit : Nat) (s : List Char) : Option ((List String × Toml) × List Char) := do
  let (keys, rest) ← readKey limit s
  let rest ← skip (← expect '=' (← skip rest))
  let (value, rest) ← item rest
  some ((keys, value), rest)

/-- The entries of a table in braces up to its closing brace. Line ends and
comments may stand around them and their equals signs, and a comma may follow
the last. -/
def readInline (item : List Char → Option (Toml × List Char)) (limit : Nat) :
    Nat → Entries → List Char → Option (Toml × List Char)
  | 0, _, _ => none
  | bound + 1, entries, s =>
      match skipTrivia limit s with
      | none => none
      | some ('\x7d' :: rest) => some (.table (finishEntries entries), rest)
      | some s =>
          match readPair item (skipTrivia limit) limit s with
          | none => none
          | some ((keys, value), rest) =>
              match setValue keys value entries, skipTrivia limit rest with
              | some entries, some (',' :: rest) =>
                  readInline item limit bound entries rest
              | some entries, some ('\x7d' :: rest) =>
                  some (.table (finishEntries entries), rest)
              | _, _ => none

/-- The value at the start of the text; arrays and tables in braces may be
nested `depth` deep. -/
def readValue (limit : Nat) : Nat → List Char → Option (Toml × List Char)
  | depth, s =>
      match s with
      | '"' :: _ => (readString limit s).map fun (text, rest) => (.string text, rest)
      | '\'' :: _ => (readString limit s).map fun (text, rest) => (.string text, rest)
      | '[' :: rest =>
          match depth with
          | 0 => none
          | depth + 1 => readArray (readValue limit depth) limit limit [] rest
      | '\x7b' :: rest =>
          match depth with
          | 0 => none
          | depth + 1 => readInline (readValue limit depth) limit limit [] rest
      | s => readScalar s

/-- How deep values may be nested. -/
def maxDepth : Nat := 80

/-! ## Lines -/

/-- What follows the rest of a line: blanks, a comment or none, and the end of
the line or text. -/
def endOfLine (s : List Char) : Option (List Char) :=
  match skipComment (skipBlanks s) with
  | [] => some []
  | s => lineEnd? s

/-- The path of a header, after its opening bracket. -/
def readHeader (limit : Nat) (s : List Char) : Option (List String × List Char) :=
  match readKey limit (skipBlanks s) with
  | some (keys, ']' :: rest) => some (keys, rest)
  | _ => none

/-- Reads line after line into `entries`; `header` is the path of the last
header. -/
def readLinesOf (limit : Nat) :
    Nat → List String → Entries → List Char → Option (List (String × Toml))
  | 0, _, _, _ => none
  | bound + 1, header, entries, s =>
      match skipBlanks s with
      | [] => some (finishEntries entries)
      | '[' :: '[' :: rest =>
          match readHeader limit rest with
          | some (keys, ']' :: rest) =>
              match openArray keys entries, endOfLine rest with
              | some entries, some rest => readLinesOf limit bound keys entries rest
              | _, _ => none
          | _ => none
      | '[' :: rest =>
          match readHeader limit rest with
          | some (keys, rest) =>
              match openTable keys entries, endOfLine rest with
              | some entries, some rest => readLinesOf limit bound keys entries rest
              | _, _ => none
          | none => none
      | s =>
          match endOfLine s with
          | some rest => readLinesOf limit bound header entries rest
          | none =>
              match readPair (readValue limit maxDepth) (some ∘ skipBlanks) limit s with
              | some ((keys, value), rest) =>
                  match setValueIn header keys value entries, endOfLine rest with
                  | some entries, some rest =>
                      readLinesOf limit bound header entries rest
                  | _, _ => none
              | none => none

/-- The text without the mark of its encoding. -/
def dropMark : List Char → List Char
  | '\ufeff' :: rest => rest
  | s => s

/-- The table that a document holds; `none` if the text is not a document. -/
def read (text : String) : Option (List (String × Toml)) :=
  let s := dropMark text.toList
  let limit := s.length + 2
  readLinesOf limit limit [] [] s

end CounterTables.Toml
