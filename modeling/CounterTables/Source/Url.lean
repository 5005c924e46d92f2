import CounterTables.Text.Blank
import CounterTables.Text.Utf8

/-!
# URLs as a server sees them

A server is asked for the path and the query of a URL, in a canonical form: the
steps `.` and `..` of the path are carried out, a backslash counts as a slash,
and characters that may not stand in a request are written as percent signs with
two hexadecimal digits. The fragment is not sent.

## Main definitions

* `requestTarget` — what a server is asked for.
-/

namespace CounterTables.Url

open CounterTables.Text (pieces)

/-! ## Percent signs -/

/-- A digit below sixteen, in upper case. -/
def hexDigit (value : Nat) : Char :=
  if value < 10 then Char.ofNat ('0'.toNat + value)
  else Char.ofNat ('A'.toNat + value - 10)

/-- The three characters that stand for a byte. -/
def escapeByte (byte : UInt8) : List Char :=
  ['%', hexDigit (byte.toNat / 16), hexDigit (byte.toNat % 16)]

/-- The text with its control characters, its characters beyond ASCII and the
given ones escaped. -/
def escape (special : List Char) (cs : List Char) : List Char :=
  cs.flatMap fun c =>
    if c < ' ' || '~' < c || special.contains c then
      (Text.Utf8.encode (String.singleton c)).flatMap escapeByte
    else [c]

/-! ## Paths -/

/-- A step of the path with `%2e` read as a point. -/
def readPoints : List Char → List Char
  | '%' :: '2' :: 'e' :: rest => '.' :: readPoints rest
  | '%' :: '2' :: 'E' :: rest => '.' :: readPoints rest
  | c :: rest => c :: readPoints rest
  | [] => []

/-- Carries out the steps of a path after those already taken (the latest
first). A path that ends in `.` or `..` ends in a slash. -/
def takeSteps (taken : List (List Char)) : List (List Char) → List (List Char)
  | [] => taken.reverse
  | step :: rest =>
      let close (taken : List (List Char)) :=
        if rest.isEmpty then [] :: taken else taken
      match readPoints step with
      | ['.'] => takeSteps (close taken) rest
      | ['.', '.'] => takeSteps (close (taken.drop 1)) rest
      | _ =>
          takeSteps
            (escape [' ', '"', '<', '>', '\x60', '\x7b', '\x7d'] step :: taken) rest

def isSlash (c : Char) : Bool :=
  c == '/' || c == '\\'

/-- The path in canonical form, which starts with a slash. -/
def canonicalPath (path : List Char) : List Char :=
  let steps :=
    match path with
    | [] => []
    | c :: rest => if isSlash c then rest else c :: rest
  (takeSteps [] (pieces isSlash steps)).flatMap ('/' :: ·)

/-! ## URLs -/

/-- The text without blanks and control characters around it, and without line
ends and tabs. -/
def clean (url : String) : List Char :=
  let isPadding (c : Char) := c ≤ ' '
  let started := url.toList.dropWhile isPadding
  let bare := (started.reverse.dropWhile isPadding).reverse
  bare.filter fun c => c != '\t' && c != '\n' && c != '\r'

/-- What follows the scheme and the host. -/
def afterHost (url : List Char) : List Char :=
  let rest := ((url.dropWhile (· != ':')).drop 1).dropWhile isSlash
  rest.dropWhile fun c => !isSlash c && c != '?' && c != '#'

/-- The path and the query that a server is asked for. -/
def requestTarget (url : String) : String :=
  let shown := (afterHost (clean url)).takeWhile (· != '#')
  let path := canonicalPath (shown.takeWhile (· != '?'))
  let query :=
    match shown.dropWhile (· != '?') with
    | [] => []
    | _ :: query => '?' :: escape [' ', '"', '<', '>', '\''] query
  String.ofList (path ++ query)

end CounterTables.Url
