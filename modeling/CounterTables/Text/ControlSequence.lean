import CounterTables.Text.Blank

/-!
# Control sequences of terminals

A text may hold sequences for the terminal that shows it. They begin with an
escape character and take no room. Some set a style that lasts until it is
reset, also beyond the end of a line.

## Main definitions

* `Progress`, `withoutSequences` — the text that a terminal shows.
* `Match`, `sequences` — the sequences that may set a style.
* `carryStyles` — lines of which each sets and resets its own styles.
-/

namespace CounterTables.Text

/-! ## What a terminal shows -/

/-- How far the terminal has got with a sequence. -/
inductive Progress
  /-- No sequence is open. -/
  | text
  | escape
  | intermediate
  | control
  /-- A command of the operating system, up to a bell or another escape. -/
  | command
  /-- A string of the device, up to another escape. -/
  | device
  deriving DecidableEq

namespace Progress

def escapeChar : Char := '\x1b'

/-- Whether a character breaks off any sequence. -/
def cancels (c : Char) : Bool :=
  c == '\x18' || c == '\x1a'

def between (first last : Char) (c : Char) : Bool :=
  first ≤ c && c ≤ last

/-- Where one more character leads. -/
def next (c : Char) (progress : Progress) : Progress :=
  if c == escapeChar then escape
  else if progress == text || cancels c then text
  else
    match progress with
    | escape =>
        if c == '[' then control
        else if c == ']' then command
        else if c == 'P' || c == 'X' || c == '^' || c == '_' then device
        else if between ' ' '/' c then intermediate
        else if between '0' '~' c then text
        else escape
    | intermediate => if between '0' '~' c then text else intermediate
    | control => if between '@' '~' c then text else control
    | command => if c == '\x07' then text else command
    | progress => progress

end Progress

/-- The text outside sequences, when some of it has been seen already. -/
def visibleFrom : Progress → List Char → List Char
  | _, [] => []
  | progress, c :: rest =>
      let after := progress.next c
      if progress = .text ∧ after = .text then c :: visibleFrom after rest
      else visibleFrom after rest

/-- The text without its control sequences. -/
def withoutSequences (text : String) : String :=
  String.ofList (visibleFrom .text text.toList)

/-! ## Sequences that may set a style -/

/-- How far a sequence has been recognized after its first character. -/
inductive Match
  | opened
  /-- A bracket that may choose a set of characters. -/
  | charset
  | marks
  /-- A run of digits and its length. -/
  | digits (count : Nat)
  | semicolon
  | command
  /-- An escape inside a command, which may end it. -/
  | commandEnd
  | complete
  | failed
  deriving DecidableEq

namespace Match

/-- Characters that a sequence starts with. -/
def isStart (c : Char) : Bool :=
  c == '\x1b' || c == '\u009b'

def isMark (c : Char) : Bool :=
  c == '(' || c == ')' || c == '[' || c == '#' || c == '?' || c == ';'

/-- Characters that a sequence ends with. -/
def isFinal (c : Char) : Bool :=
  ('A' ≤ c && c ≤ 'P') || c == 'R' || c == 'Z' || c == 'c' ||
    ('f' ≤ c && c ≤ 'n') || c == 'q'
    || c == 'r' || c == 'y' || c == '=' || c == '<' || c == '>'

/-- The match after one more character. -/
def next (c : Char) : Match → Match
  | opened =>
      if c == '(' || c == ')' then charset
      else if c == ']' then command
      else if isMark c then marks
      else if c.isDigit then digits 1
      else if isFinal c then complete
      else failed
  | charset | marks =>
      if isMark c then marks
      else if c.isDigit then digits 1
      else if isFinal c then complete
      else failed
  | digits count =>
      if c.isDigit then (if count < 5 then digits (count + 1) else failed)
      else if 4 < count then failed
      else if c == ';' then semicolon
      else if isFinal c then complete
      else failed
  | semicolon =>
      if c == ';' then semicolon
      else if c.isDigit then digits 1
      else if isFinal c then complete
      else failed
  | command =>
      if c == '\x07' then complete
      else if c == '\x1b' then commandEnd
      else command
  | commandEnd => if c == '\\' then complete else failed
  | complete | failed => failed

/-- Whether the sequence may end here. -/
def mayEnd : Match → Bool
  | digits _ | complete => true
  | _ => false

/-- The longest sequence that continues a match, if there is one: what has been
`read` of it comes with the latest character first. -/
def longest? : Match → List Char → Option (List Char) → List Char → Option (List Char)
  | _, _, best?, [] => best?
  | state, read, best?, c :: rest =>
      match state.next c with
      | failed => best?
      | state =>
          let read := c :: read
          state.longest? read (if state.mayEnd then some read.reverse else best?) rest

end Match

/-- The sequences in a text that may set a style, in order. -/
def sequences : List Char → List (List Char)
  | [] => []
  | c :: rest =>
      if Match.isStart c then
        match Match.opened.longest? [c] none rest with
        | some sequence => sequence :: sequences rest
        | none => sequences rest
      else sequences rest

/-! ## Styles over several lines -/

/-- The sequence that resets all styles. -/
def resetSequence : String := "\x1b[0m"

/-- The styles that last after a line, when some were set before it. -/
def stylesAfter (styles : List String) (line : String) : List String :=
  ((sequences line.toList).map String.ofList).foldl
    (fun styles sequence =>
      if sequence == resetSequence then [] else styles ++ [sequence]) styles

/-- The lines with the styles that last from one to the next set anew in each of
them, and reset at its end. -/
def carryStyles : List String → List String → List String
  | _, [] => []
  | styles, line :: rest =>
      let after := stylesAfter styles line
      (String.join styles ++ line ++ (if after.isEmpty then "" else resetSequence))
        :: carryStyles after rest

end CounterTables.Text
