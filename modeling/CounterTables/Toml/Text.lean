import CounterTables.Json.Reader

/-!
# Characters, strings and keys of TOML

Blanks are space and tab, a line ends at a line feed or a carriage return with a
line feed, and a comment runs to the end of its line. No other control character
but the tab may stand in text.

Strings are basic, with escapes, or literal, without; both kinds may span lines
between triple quotes, where a line end right after the opening is dropped, and
where one or two quotes more may stand right before the closing ones.
-/

namespace CounterTables.Toml

open CounterTables.Json (hexDigit?)

/-! ## Characters -/

def isBlank (c : Char) : Bool :=
  c == ' ' || c == '\t'

def skipBlanks (s : List Char) : List Char :=
  s.dropWhile isBlank

/-- Characters that may stand in comments and, quotes and backslashes aside, in
strings. -/
def isPlain (c : Char) : Bool :=
  c == '\t' || (' ' ≤ c && c != '\x7f')

/-- What follows the end of a line. -/
def lineEnd? : List Char → Option (List Char)
  | '\n' :: rest => some rest
  | '\r' :: '\n' :: rest => some rest
  | _ => none

/-- What follows a comment, if there is one. -/
def skipComment : List Char → List Char
  | '#' :: rest => rest.dropWhile isPlain
  | s => s

/-- Skips blanks, comments and line ends. A comment ends at a line end or at the
end of the text. -/
def skipTrivia : Nat → List Char → Option (List Char)
  | 0, _ => none
  | bound + 1, s =>
      let s := skipBlanks s
      let afterComment := skipComment s
      match lineEnd? afterComment with
      | some rest => skipTrivia bound rest
      | none =>
          match s with
          | '#' :: _ => if afterComment.isEmpty then some [] else none
          | s => some s

/-! ## Escapes -/

/-- The value of a run of hexadecimal digits. -/
def hexValue? (digits : List Char) : Option Nat :=
  digits.foldl
    (fun value? c => value?.bind fun value => (hexDigit? c).map (16 * value + ·))
    (some 0)

/-- The character with the code given by the first `count` digits. -/
def readCode (count : Nat) (s : List Char) : Option (Char × List Char) :=
  let digits := s.take count
  if digits.length < count then none
  else
    (hexValue? digits).bind fun code =>
      if code.isValidChar then some (Char.ofNat code, s.drop count) else none

/-- The character of an escape, after its backslash. -/
def readEscape : List Char → Option (Char × List Char)
  | 'b' :: rest => some ('\x08', rest)
  | 't' :: rest => some ('\t', rest)
  | 'n' :: rest => some ('\n', rest)
  | 'f' :: rest => some ('\x0c', rest)
  | 'r' :: rest => some ('\r', rest)
  | 'e' :: rest => some ('\x1b', rest)
  | '"' :: rest => some ('"', rest)
  | '\\' :: rest => some ('\\', rest)
  | 'x' :: rest => readCode 2 rest
  | 'u' :: rest => readCode 4 rest
  | 'U' :: rest => readCode 8 rest
  | _ => none

/-! ## Strings on one line -/

/-- A basic string up to its closing quote. -/
def readBasic : Nat → List Char → List Char → Option (String × List Char)
  | 0, _, _ => none
  | bound + 1, read, s =>
      match s with
      | '"' :: rest => some (String.ofList read.reverse, rest)
      | '\\' :: rest =>
          match readEscape rest with
          | some (c, rest) => readBasic bound (c :: read) rest
          | none => none
      | c :: rest => if isPlain c then readBasic bound (c :: read) rest else none
      | [] => none

/-- A literal string up to its closing quote. -/
def readLiteral (s : List Char) : Option (String × List Char) :=
  let inside (c : Char) := isPlain c && c != '\''
  match s.dropWhile inside with
  | '\'' :: rest => some (String.ofList (s.takeWhile inside), rest)
  | _ => none

/-! ## Strings over several lines -/

/-- Skips blanks and line ends. -/
def skipSpace : Nat → List Char → List Char
  | 0, s => s
  | bound + 1, s =>
      let s := skipBlanks s
      match lineEnd? s with
      | some rest => skipSpace bound rest
      | none => s

/-- The quotes at the end of a string over several lines: those that belong to
its text, and what follows the closing three. -/
def closeQuotes (quote : Char) (s : List Char) : Option (Nat × List Char) :=
  let count := (s.takeWhile (· == quote)).length
  if count < 3 then none
  else
    let inside := min (count - 3) 2
    some (inside, s.drop (inside + 3))

/-- A string over several lines up to its closing quotes; `escapes` tells basic
from literal. -/
def readLines (quote : Char) (escapes : Bool) :
    Nat → List Char → List Char → Option (String × List Char)
  | 0, _, _ => none
  | bound + 1, read, s =>
      match closeQuotes quote s with
      | some (inside, rest) =>
          some (String.ofList (read.reverse ++ List.replicate inside quote), rest)
      | none =>
          match s with
          | '\\' :: rest =>
              if !escapes then readLines quote escapes bound ('\\' :: read) rest
              else if (lineEnd? (skipBlanks rest)).isSome then
                readLines quote escapes bound read (skipSpace bound rest)
              else
                match readEscape rest with
                | some (c, rest) => readLines quote escapes bound (c :: read) rest
                | none => none
          | '\r' :: '\n' :: rest =>
              readLines quote escapes bound ('\n' :: '\r' :: read) rest
          | '\n' :: rest => readLines quote escapes bound ('\n' :: read) rest
          | c :: rest =>
              if isPlain c then readLines quote escapes bound (c :: read) rest else none
          | [] => none

/-- Drops the line end right after the opening quotes. -/
def dropFirstLineEnd (s : List Char) : List Char :=
  (lineEnd? s).getD s

/-- Any string, from its opening quote on. -/
def readString (bound : Nat) : List Char → Option (String × List Char)
  | '"' :: '"' :: '"' :: rest => readLines '"' true bound [] (dropFirstLineEnd rest)
  | '\'' :: '\'' :: '\'' :: rest =>
      readLines '\'' false bound [] (dropFirstLineEnd rest)
  | '"' :: rest => readBasic bound [] rest
  | '\'' :: rest => readLiteral rest
  | _ => none

/-! ## Keys -/

def isBareKeyChar (c : Char) : Bool :=
  c.isAlphanum || c == '_' || c == '-'

/-- One name of a key: bare or quoted. -/
def readName (bound : Nat) : List Char → Option (String × List Char)
  | '"' :: rest => readBasic bound [] rest
  | '\'' :: rest => readLiteral rest
  | s =>
      match s.takeWhile isBareKeyChar with
      | [] => none
      | name => some (String.ofList name, s.dropWhile isBareKeyChar)

/-- How many names a key may have. -/
def maxNames : Nat := 80

/-- The names of a key after those `read` already, of which `bound` may follow,
with points between them and blanks around the points. The blanks behind the key
are skipped too. -/
def readNames (limit : Nat) :
    Nat → List String → List Char → Option (List String × List Char)
  | 0, _, _ => none
  | bound + 1, read, s =>
      match readName limit s with
      | none => none
      | some (name, rest) =>
          match skipBlanks rest with
          | '.' :: rest => readNames limit bound (name :: read) (skipBlanks rest)
          | rest => some ((name :: read).reverse, rest)

/-- A key, and what follows it and the blanks behind it. -/
def readKey (limit : Nat) (s : List Char) : Option (List String × List Char) :=
  readNames limit maxNames [] s

end CounterTables.Toml
