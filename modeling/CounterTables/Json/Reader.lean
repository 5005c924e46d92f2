import CounterTables.Json.Numeral

/-!
# Reading JSON

A document is one value with blanks around it. Blanks are space, tab, line feed
and carriage return. Containers may be nested 127 deep. The text of a string may
not hold control characters below U+0020, and its escapes must name characters:
halves of surrogate pairs count only together.

Reading goes down the nesting by recursion on the depth that is left; along a
text it is bounded by the number of characters of the whole document.
-/

namespace CounterTables.Json

/-! ## Blanks -/

def isBlank (c : Char) : Bool :=
  c == ' ' || c == '\t' || c == '\n' || c == '\r'

def skipBlanks (s : List Char) : List Char :=
  s.dropWhile isBlank

/-! ## Strings -/

/-- The value of a hexadecimal digit. -/
def hexDigit? (c : Char) : Option Nat :=
  if '0' ≤ c && c ≤ '9' then some (c.toNat - '0'.toNat)
  else if 'a' ≤ c && c ≤ 'f' then some (c.toNat - 'a'.toNat + 10)
  else if 'A' ≤ c && c ≤ 'F' then some (c.toNat - 'A'.toNat + 10)
  else none

/-- The four hexadecimal digits of an escape. -/
def readHex4 : List Char → Option (Nat × List Char)
  | a :: b :: c :: d :: rest => do
      let a ← hexDigit? a
      let b ← hexDigit? b
      let c ← hexDigit? c
      let d ← hexDigit? d
      some (((a * 16 + b) * 16 + c) * 16 + d, rest)
  | _ => none

def isHighSurrogate (unit : Nat) : Bool := 0xD800 ≤ unit && unit ≤ 0xDBFF

def isLowSurrogate (unit : Nat) : Bool := 0xDC00 ≤ unit && unit ≤ 0xDFFF

/-- The character of a `\u` escape, which may take a second one to complete a
surrogate pair. -/
def readUnicodeEscape (s : List Char) : Option (Char × List Char) :=
  match readHex4 s with
  | none => none
  | some (unit, rest) =>
      if isLowSurrogate unit then none
      else if isHighSurrogate unit then
        match rest with
        | '\\' :: 'u' :: rest =>
            match readHex4 rest with
            | some (low, rest) =>
                if isLowSurrogate low then
                  some (Char.ofNat
                    (0x10000 + (unit - 0xD800) * 0x400 + (low - 0xDC00)), rest)
                else none
            | none => none
        | _ => none
      else some (Char.ofNat unit, rest)

/-- The character of an escape, after its backslash. -/
def readEscape : List Char → Option (Char × List Char)
  | '"' :: rest => some ('"', rest)
  | '\\' :: rest => some ('\\', rest)
  | '/' :: rest => some ('/', rest)
  | 'b' :: rest => some ('\x08', rest)
  | 'f' :: rest => some ('\x0c', rest)
  | 'n' :: rest => some ('\n', rest)
  | 'r' :: rest => some ('\r', rest)
  | 't' :: rest => some ('\t', rest)
  | 'u' :: rest => readUnicodeEscape rest
  | _ => none

/-- The text of a string up to its closing quote. -/
def readText : Nat → List Char → List Char → Option (String × List Char)
  | 0, _, _ => none
  | bound + 1, read, s =>
      match s with
      | [] => none
      | '"' :: rest => some (String.ofList read.reverse, rest)
      | '\\' :: rest =>
          match readEscape rest with
          | some (c, rest) => readText bound (c :: read) rest
          | none => none
      | c :: rest => if c < ' ' then none else readText bound (c :: read) rest

/-! ## Containers -/

/-- The items of a container up to its closing bracket, a comma between any
two. -/
def readItems {α : Type} (close : Char) (item : List Char → Option (α × List Char)) :
    Nat → List α → List Char → Option (List α × List Char)
  | 0, _, _ => none
  | bound + 1, read, s =>
      match item (skipBlanks s) with
      | none => none
      | some (value, rest) =>
          match skipBlanks rest with
          | ',' :: rest => readItems close item bound (value :: read) rest
          | c :: rest =>
              if c == close then some ((value :: read).reverse, rest) else none
          | [] => none

/-- The items of a container, which may be none. -/
def readContainer {α : Type} (close : Char) (item : List Char → Option (α × List Char))
    (bound : Nat) (s : List Char) : Option (List α × List Char) :=
  match skipBlanks s with
  | c :: rest => if c == close then some ([], rest) else readItems close item bound [] s
  | [] => none

/-- A key, a colon and a value. -/
def readMember (bound : Nat) (value : List Char → Option (Json × List Char)) :
    List Char → Option ((String × Json) × List Char)
  | '"' :: rest =>
      match readText bound [] rest with
      | none => none
      | some (key, rest) =>
          match skipBlanks rest with
          | ':' :: rest =>
              (value (skipBlanks rest)).map fun (v, rest) => ((key, v), rest)
          | _ => none
  | _ => none

/-! ## Values -/

/-- The value at the start of the text; containers may be nested `depth`
deep. -/
def readValue (bound : Nat) : Nat → List Char → Option (Json × List Char)
  | _, '"' :: rest =>
      (readText bound [] rest).map fun (text, rest) => (string text, rest)
  | _, 'n' :: 'u' :: 'l' :: 'l' :: rest => some (null, rest)
  | _, 't' :: 'r' :: 'u' :: 'e' :: rest => some (bool true, rest)
  | _, 'f' :: 'a' :: 'l' :: 's' :: 'e' :: rest => some (bool false, rest)
  | depth + 1, '[' :: rest =>
      (readContainer ']' (readValue bound depth) bound rest).map fun (items, rest) =>
        (array items, rest)
  | depth + 1, '\x7b' :: rest =>
      (readContainer '\x7d' (readMember bound (readValue bound depth)) bound rest).map
        fun (members, rest) =>
          (object
            (members.foldl (fun fields (key, v) => Fields.put fields key v) []), rest)
  | 0, '[' :: _ => none
  | 0, '\x7b' :: _ => none
  | _, s => (readNumber s).map fun (n, rest) => (number n, rest)

/-- How deep containers may be nested. -/
def maxDepth : Nat := 127

/-- The value of a document; `none` if the text is not one. -/
def read (text : String) : Option Json :=
  let s := text.toList
  match readValue (s.length + 1) maxDepth (skipBlanks s) with
  | some (value, rest) => if (skipBlanks rest).isEmpty then some value else none
  | none => none

end CounterTables.Json
