import CounterTables.Json.Reader
import CounterTables.Pattern.Matching
import CounterTables.Text.Blank
import CounterTables.Text.Letter

/-!
# Reading patterns

A pattern is written in the customary notation: characters stand for themselves,
`.` for any character but a line feed, brackets hold sets, and `|`, `*`, `+`,
`?` and parentheses combine patterns. Flags in parentheses change what follows
them in the same group.

Sets of characters of all scripts, such as digits or letters in any case, are
not known. A pattern that asks for one is refused, unless a flag restricts it to
ASCII. Counted repetitions are refused too.

## Main definitions

* `Flags` — what flags are set.
* `readEscape`, `readClass` — an escape, and a set in brackets.
* `Pattern.parse` — the pattern that a text denotes.
-/

namespace CounterTables.PatternText

open CounterTables.Json (hexDigit?)

/-! ## Flags -/

structure Flags where
  ignoreCase : Bool
  multiLine : Bool
  dotAll : Bool
  lazy : Bool
  unicode : Bool
  carriage : Bool
  /-- Whether blanks and comments are skipped. -/
  spaced : Bool

namespace Flags

def standard : Flags := ⟨false, false, false, false, true, false, false⟩

/-- The flags with the one that a letter names set or cleared. -/
def set? (flags : Flags) (value : Bool) (letter : Char) : Option Flags :=
  match letter with
  | 'i' => some { flags with ignoreCase := value }
  | 'm' => some { flags with multiLine := value }
  | 's' => some { flags with dotAll := value }
  | 'U' => some { flags with lazy := value }
  | 'u' => some { flags with unicode := value }
  | 'R' => some { flags with carriage := value }
  | 'x' => some { flags with spaced := value }
  | _ => none

/-- Sets the flags named before a minus and clears those behind it. No letter
may stand twice, and something must follow the minus. -/
def read? (flags : Flags) : Bool → List Char → List Char → Option Flags
  | _, _, [] => some flags
  | value, seen, letter :: rest =>
      if seen.contains letter then none
      else if letter == '-' then
        if rest.isEmpty then none else read? flags false ('-' :: seen) rest
      else (flags.set? value letter).bind fun flags =>
        read? flags value (letter :: seen) rest

end Flags

/-! ## Blanks -/

/-- Skips blanks and comments. -/
def skipSpaces : Nat → List Char → List Char
  | 0, s => s
  | bound + 1, s =>
      match s.dropWhile Text.isBlank with
      | '#' :: rest => skipSpaces bound (rest.dropWhile (· != '\n'))
      | s => s

/-- Skips blanks and comments if the flags say so. -/
def skip (flags : Flags) (s : List Char) : List Char :=
  if flags.spaced then skipSpaces s.length s else s

/-! ## Escapes -/

/-- What an escape stands for. -/
inductive Escaped
  | char (c : Char)
  | set (set : CharSet)
  | anchor (anchor : Anchor)

/-- Whether a backslash in front of a character makes it stand for itself. -/
def isEscapable (c : Char) : Bool :=
  c.toNat < 128 && !c.isAlphanum && c != '<' && c != '>'

/-- The character whose code some hexadecimal digits give; blanks between them
are skipped. -/
def readHex (flags : Flags) : Nat → Nat → List Char → Option (Char × List Char)
  | 0, code, s => if code.isValidChar then some (Char.ofNat code, s) else none
  | count + 1, code, s =>
      match skip flags s with
      | c :: rest =>
          (hexDigit? c).bind fun digit => readHex flags count (16 * code + digit) rest
      | [] => none

/-- A set that is known for ASCII only. -/
def asciiSet (flags : Flags) (set : CharSet) (rest : List Char) :
    Option (Escaped × List Char) :=
  if flags.unicode then none else some (.set set, rest)

/-- An anchor that is known for ASCII only. -/
def asciiAnchor (flags : Flags) (anchor : Anchor) (rest : List Char) :
    Option (Escaped × List Char) :=
  if flags.unicode || rest.head? == some '\x7b' then none
  else some (.anchor anchor, rest)

/-- A character given by its code. Beyond ASCII the short form needs the flag
for all scripts. -/
def readCode (flags : Flags) (count : Nat) (s : List Char) :
    Option (Escaped × List Char) :=
  (readHex flags count 0 s).bind fun (c, rest) =>
    if count == 2 && !flags.unicode && 128 ≤ c.toNat then none else some (.char c, rest)

/-- What an escape stands for, after its backslash. -/
def readEscape (flags : Flags) : List Char → Option (Escaped × List Char)
  | [] => none
  | c :: rest =>
      if isEscapable c then some (.char c, rest)
      else
        match c with
        | 'a' => some (.char '\x07', rest)
        | 'f' => some (.char '\x0c', rest)
        | 't' => some (.char '\t', rest)
        | 'n' => some (.char '\n', rest)
        | 'r' => some (.char '\r', rest)
        | 'v' => some (.char '\x0b', rest)
        | 'x' => readCode flags 2 rest
        | 'u' => readCode flags 4 rest
        | 'U' => readCode flags 8 rest
        | 'd' => asciiSet flags .digits rest
        | 's' => asciiSet flags .blanks rest
        | 'w' => asciiSet flags .wordChars rest
        | 'D' => asciiSet flags (.complement .digits) rest
        | 'S' => asciiSet flags (.complement .blanks) rest
        | 'W' => asciiSet flags (.complement .wordChars) rest
        | 'A' => some (.anchor .textStart, rest)
        | 'z' => some (.anchor .textEnd, rest)
        | 'b' => asciiAnchor flags .wordEdge rest
        | 'B' => asciiAnchor flags .noWordEdge rest
        | '<' => asciiAnchor flags .wordStart rest
        | '>' => asciiAnchor flags .wordEnd rest
        | _ => none

/-! ## Sets in brackets -/

/-- How two sets in brackets are combined. -/
inductive SetOperator
  | intersection
  | difference
  | symmetricDifference

def SetOperator.apply (left right : CharSet) : SetOperator → CharSet
  | intersection => left.inter right
  | difference => left.without right
  | symmetricDifference => left.exclusive right

/-- The set in any case, if the flags say so. -/
def fold (flags : Flags) (set : CharSet) : CharSet :=
  if flags.ignoreCase then set.anyCase else set

/-- The operands so far, with the operator before the latest. -/
structure Operands where
  pending : Option (CharSet × SetOperator)
  latest : CharSet

namespace Operands

def add (operands : Operands) (set : CharSet) : Operands :=
  { operands with latest := operands.latest.union set }

/-- The set that the operands make. -/
def result (operands : Operands) (flags : Flags) : CharSet :=
  let latest := fold flags operands.latest
  match operands.pending with
  | some (left, operator) => operator.apply left latest
  | none => latest

/-- The operands with an operator after them. -/
def operate (operands : Operands) (flags : Flags) (operator : SetOperator) : Operands :=
  ⟨some (operands.result flags, operator), .empty⟩

end Operands

/-- A set with a name, after `[:`. -/
def readNamed (s : List Char) : Option (CharSet × List Char) :=
  let (negated, s) := match s with
    | '^' :: rest => (true, rest)
    | s => (false, s)
  match s.dropWhile (· != ':') with
  | ':' :: ']' :: rest =>
      (CharSet.named? (String.ofList (s.takeWhile (· != ':')))).map fun set =>
        (if negated then set.complement else set, rest)
  | _ => none

/-- A character or an escape in brackets. -/
def readMember (flags : Flags) : List Char → Option (Escaped × List Char)
  | '\\' :: rest => readEscape flags rest
  | c :: rest => some (.char c, rest)
  | [] => none

/-- Whether a minus, before which the text stands, makes a range with what
follows it. -/
def startsRange (flags : Flags) : List Char → Bool
  | '-' :: rest =>
      match skip flags rest with
      | ']' :: _ => false
      | '-' :: _ => false
      | _ => true
  | _ => false

/-- Whether a character may stand in brackets. -/
def isMember (flags : Flags) (c : Char) : Bool :=
  flags.unicode || c.toNat < 128

/-- A character, a range of characters or an escape in brackets. -/
def readRange (flags : Flags) (s : List Char) : Option (CharSet × List Char) :=
  (readMember flags s).bind fun (member, rest) =>
    let rest := skip flags rest
    match member with
    | .anchor _ => none
    | .set set => if startsRange flags rest then none else some (set, rest)
    | .char first =>
        if !isMember flags first then none
        else if startsRange flags rest then
          match readMember flags (skip flags (rest.drop 1)) with
          | some (.char last, rest) =>
              if first ≤ last && isMember flags last then
                some (.between first last, rest)
              else none
          | _ => none
        else some (.single first, rest)

/-- The members that may stand first in brackets although they mean something
else further on. -/
def readFirst (flags : Flags) : Nat → CharSet → List Char → CharSet × List Char
  | 0, set, s => (set, s)
  | bound + 1, set, s =>
      match s with
      | '-' :: rest => readFirst flags bound (set.union (.single '-')) (skip flags rest)
      | ']' :: rest =>
          if set = .empty then (.single ']', skip flags rest) else (set, ']' :: rest)
      | s => (set, s)

/-- The start of a set, after its bracket: whether it is negated, and the first
members. -/
def openClass (flags : Flags) (s : List Char) : Bool × Operands × List Char :=
  let s := skip flags s
  let (negated, s) := match s with
    | '^' :: rest => (true, skip flags rest)
    | s => (false, s)
  let (set, rest) := readFirst flags s.length .empty s
  (negated, ⟨none, set⟩, rest)

/-- A set up to its closing bracket. -/
def readClassFrom (flags : Flags) :
    Nat → Bool → Operands → List Char → Option (CharSet × List Char)
  | 0, _, _, _ => none
  | bound + 1, negated, operands, s =>
      match skip flags s with
      | [] => none
      | ']' :: rest =>
          let set := operands.result flags
          some (if negated then set.complement else set, rest)
      | '&' :: '&' :: rest =>
          readClassFrom flags bound negated (operands.operate flags .intersection) rest
      | '-' :: '-' :: rest =>
          readClassFrom flags bound negated (operands.operate flags .difference) rest
      | '~' :: '~' :: rest =>
          readClassFrom flags bound negated
            (operands.operate flags .symmetricDifference) rest
      | '[' :: rest =>
          let named := match rest with
            | ':' :: rest => readNamed rest
            | _ => none
          match named with
          | some (set, rest) =>
              readClassFrom flags bound negated (operands.add (fold flags set)) rest
          | none =>
              let (innerNegated, inner, rest) := openClass flags rest
              match readClassFrom flags bound innerNegated inner rest with
              | some (set, rest) =>
                  readClassFrom flags bound negated (operands.add set) rest
              | none => none
      | s =>
          match readRange flags s with
          | some (set, rest) =>
              readClassFrom flags bound negated (operands.add set) rest
          | none => none

/-- A set in brackets, after the opening one. In any case of all scripts it is
not known. -/
def readClass (flags : Flags) (s : List Char) : Option (CharSet × List Char) :=
  if flags.unicode && flags.ignoreCase then none
  else
    let (negated, operands, rest) := openClass flags s
    (readClassFrom flags s.length negated operands rest).filter fun (set, _) =>
      flags.unicode || set.isAscii

/-! ## Single characters -/

/-- The pattern of a character that stands for itself. -/
def literal (flags : Flags) (c : Char) : Option Pattern :=
  if flags.ignoreCase && flags.unicode then none
  else some (.one (if c.toNat < 128 then fold flags (.single c) else .single c))

/-- The pattern of any character. -/
def anyChar (flags : Flags) : Option Pattern :=
  if !flags.unicode then none
  else if flags.dotAll then some (.one (CharSet.empty.complement))
  else if flags.carriage then
    some (.one ((CharSet.single '\r').union (.single '\n')).complement)
  else some (.one (CharSet.single '\n').complement)

/-- The pattern of an escape. -/
def ofEscaped (flags : Flags) : Escaped → Option Pattern
  | .char c => literal flags c
  | .set set => if set.isAscii then some (.one set) else none
  | .anchor anchor => some (.place anchor)

/-- The pattern at the start of the text that needs no parentheses. -/
def readAtom (flags : Flags) : List Char → Option (Pattern × List Char)
  | [] => none
  | '\\' :: rest =>
      (readEscape flags rest).bind fun (escaped, rest) =>
        (ofEscaped flags escaped).map (·, rest)
  | '[' :: rest => (readClass flags rest).map fun (set, rest) => (.one set, rest)
  | '.' :: rest => (anyChar flags).map (·, rest)
  | '^' :: rest =>
      some (.place
        (if flags.multiLine then .lineStart flags.carriage else .textStart), rest)
  | '$' :: rest =>
      some (.place
        (if flags.multiLine then .lineEnd flags.carriage else .textEnd), rest)
  | c :: rest => (literal flags c).map (·, rest)

/-! ## Groups -/

/-- How a group begins. -/
inductive Opening
  /-- A group, with its name and the flags inside it. -/
  | group (name : Option String) (inside : Flags) (rest : List Char)
  /-- No group, but flags for what follows. -/
  | flags (flags : Flags) (rest : List Char)

def isNameStart (c : Char) : Bool :=
  c == '_' || (Text.isAlphanumeric c && !c.isDigit)

def isNameChar (c : Char) : Bool :=
  c == '_' || c == '.' || c == '[' || c == ']' || Text.isAlphanumeric c

/-- A group with a name, after the opening angle. -/
def openNamed (flags : Flags) (s : List Char) : Option Opening :=
  match s, s.dropWhile isNameChar with
  | c :: _, '>' :: rest =>
      if isNameStart c then
        some (.group (some (String.ofList (s.takeWhile isNameChar))) flags rest)
      else none
  | _, _ => none

/-- How a group begins, after its parenthesis. Looking ahead or back is not
known. -/
def readOpening (flags : Flags) (s : List Char) : Option Opening :=
  match skip flags s with
  | '?' :: 'P' :: '<' :: rest => openNamed flags rest
  | '?' :: '<' :: rest => openNamed flags rest
  | '?' :: rest =>
      let ends (c : Char) := c == ':' || c == ')'
      let letters := rest.takeWhile (!ends ·)
      (flags.read? true [] letters).bind fun changed =>
        match rest.dropWhile (!ends ·) with
        | ':' :: rest => some (.group none changed rest)
        | ')' :: rest => if letters.isEmpty then none else some (.flags changed rest)
        | _ => none
  | s => some (.group none flags s)

/-! ## Patterns -/

/-- What has been read of a group: the alternatives, and the parts of the latest
one. A change of flags leaves a part that cannot be repeated. The latest come
first. -/
structure Parts where
  /-- The names of all groups so far, inside this group or not. -/
  names : List String
  alternatives : List Pattern
  parts : List (Option Pattern)

namespace Parts

def start (names : List String) : Parts := ⟨names, [], []⟩

def push (parts : Parts) (part : Option Pattern) : Parts :=
  { parts with parts := part :: parts.parts }

/-- The latest alternative. -/
def current (parts : Parts) : Pattern :=
  .inOrder (parts.parts.reverse.filterMap id)

/-- Starts another alternative. -/
def split (parts : Parts) : Parts :=
  ⟨parts.names, parts.current :: parts.alternatives, []⟩

/-- The pattern of the group. -/
def pattern (parts : Parts) : Pattern :=
  .anyOf parts.split.alternatives.reverse

/-- A group inside this one is about to be read. No two groups have one name. -/
def enter (parts : Parts) (name : Option String) : Option Parts :=
  if name.any parts.names.contains then none
  else some (start (name.toList ++ parts.names))

/-- A group inside this one has been read. -/
def leave (parts inner : Parts) : Parts :=
  { parts with names := inner.names }.push (some inner.pattern)

/-- Puts the repetition that `make` makes in the place of the latest part. A
question mark behind it reverses what it prefers. -/
def repeat? (parts : Parts) (flags : Flags) (make : Bool → Pattern → Pattern)
    (s : List Char) : Option (Parts × List Char) :=
  match parts.parts with
  | some part :: before =>
      let (reversed, rest) := match s with
        | '?' :: rest => (true, rest)
        | s => (false, s)
      some
        ({ parts with parts := some (make (reversed == flags.lazy) part) :: before },
          rest)
  | _ => .none

end Parts

/-- Reads a group up to its closing parenthesis or the end of the text. -/
def readGroup : Nat → Flags → Parts → List Char → Option (Parts × List Char)
  | 0, _, _, _ => none
  | bound + 1, flags, parts, s =>
      let goOn (next : Option (Parts × List Char)) : Option (Parts × List Char) :=
        match next with
        | some (parts, rest) => readGroup bound flags parts rest
        | none => none
      match skip flags s with
      | [] => some (parts, [])
      | ')' :: rest => some (parts, ')' :: rest)
      | '|' :: rest => goOn (some (parts.split, rest))
      | '*' :: rest => goOn (parts.repeat? flags .repeated rest)
      | '+' :: rest => goOn (parts.repeat? flags .oneOrMore rest)
      | '?' :: rest => goOn (parts.repeat? flags .optional rest)
      | '\x7b' :: _ => none
      | '(' :: rest =>
          match readOpening flags rest with
          | some (.flags flags rest) => readGroup bound flags (parts.push none) rest
          | some (.group name inside rest) =>
              match parts.enter name with
              | some inner =>
                  match readGroup bound inside inner rest with
                  | some (inner, ')' :: rest) => goOn (some (parts.leave inner, rest))
                  | _ => none
              | none => none
          | none => none
      | s =>
          goOn ((readAtom flags s).map fun (pattern, rest) =>
            (parts.push (some pattern), rest))

end PatternText

/-- The pattern that a text denotes. -/
def Pattern.parse (text : List Char) : Option Pattern :=
  match PatternText.readGroup (text.length + 1) .standard (.start []) text with
  | some (parts, []) => some parts.pattern
  | _ => .none

end CounterTables
