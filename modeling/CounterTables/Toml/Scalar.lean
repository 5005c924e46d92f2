import CounterTables.Toml.Text
import CounterTables.Toml.Value
import CounterTables.Number.Literal

/-!
# Numbers, dates and truth values of TOML

These are written without quotes, as a run of letters, digits and a few marks.
In numbers single underscores may stand between digits. Whole numbers must fit
128 bits, signed or not, and others must not exceed the range of binary64. Dates
must exist in the calendar.
-/

namespace CounterTables.Toml

open CounterTables.Number (ofDigits twoPow)

/-! ## Runs of digits -/

/-- The digits of a run with single underscores between digits. -/
def digitsOf (isDigit : Char → Bool) : List Char → Option (List Char)
  | [] => none
  | [c] => if isDigit c then some [c] else none
  | c :: '_' :: rest => if isDigit c then (digitsOf isDigit rest).map (c :: ·) else none
  | c :: rest => if isDigit c then (digitsOf isDigit rest).map (c :: ·) else none

/-- A whole number without sign and without superfluous zeros. -/
def decimalDigits (s : List Char) : Option (List Char) :=
  match digitsOf Char.isDigit s with
  | some ['0'] => some ['0']
  | some ('0' :: _) => none
  | digits => digits

/-- The sign of a number and what follows it. -/
def splitSign : List Char → Bool × List Char
  | '-' :: rest => (true, rest)
  | '+' :: rest => (false, rest)
  | s => (false, s)

/-! ## Whole numbers -/

/-- The digits of one of the bases that are powers of two. -/
def inBase (base : Nat) (s : List Char) : Option Nat :=
  let isDigit (c : Char) := ((Json.hexDigit? c).filter (· < base)).isSome
  (digitsOf isDigit s).map fun digits =>
    digits.foldl (fun value c => base * value + (Json.hexDigit? c).getD 0) 0

def integer? (s : List Char) : Option Int :=
  let value? : Option Int :=
    match s with
    | '0' :: 'x' :: rest => (inBase 16 rest).map Int.ofNat
    | '0' :: 'o' :: rest => (inBase 8 rest).map Int.ofNat
    | '0' :: 'b' :: rest => (inBase 2 rest).map Int.ofNat
    | s =>
        let (negative, digits) := splitSign s
        (decimalDigits digits).map fun digits =>
          if negative then -(ofDigits digits : Int) else ofDigits digits
  value?.filter fun value => -(twoPow 127 : Int) ≤ value && value < twoPow 128

/-! ## Fractional numbers -/

/-- Whether the text is the exponent of a number, from its mark on. -/
def isExponent : List Char → Bool
  | c :: rest =>
      (c == 'e' || c == 'E') && (digitsOf Char.isDigit (splitSign rest).2).isSome
  | [] => false

/-- Whether the text is a number with a fraction or an exponent, or infinity, or
no number. -/
def isFloat (s : List Char) : Bool :=
  let s := (splitSign s).2
  if s == "inf".toList || s == "nan".toList then true
  else
    let numeral (c : Char) := c.isDigit || c == '_'
    let rest := s.dropWhile numeral
    (decimalDigits (s.takeWhile numeral)).isSome
      && (match rest with
        | '.' :: rest =>
            (digitsOf Char.isDigit (rest.takeWhile numeral)).isSome
              && (let rest := rest.dropWhile numeral
                rest.isEmpty || isExponent rest)
        | rest => isExponent rest)

/-- Whether a number is too large for binary64. -/
def overflows (s : List Char) : Bool :=
  (Number.readLiteral ((splitSign s).2.filter (· != '_'))).any Float.isInf

/-! ## Dates and times -/

/-- A number of exactly `count` digits, and what follows it. -/
def fixedDigits (count : Nat) (s : List Char) : Option (Nat × List Char) :=
  let digits := s.take count
  if digits.length == count && digits.all Char.isDigit then
    some (ofDigits digits, s.drop count)
  else none

/-- What follows a given character. -/
def expect (c : Char) : List Char → Option (List Char)
  | d :: rest => if c == d then some rest else none
  | [] => none

def isLeapYear (year : Nat) : Bool :=
  year % 4 == 0 && (year % 100 != 0 || year % 400 == 0)

def daysIn (year month : Nat) : Nat :=
  if month == 2 then (if isLeapYear year then 29 else 28)
  else if month == 4 || month == 6 || month == 9 || month == 11 then 30
  else 31

/-- What follows a date. -/
def date? (s : List Char) : Option (List Char) := do
  let (year, s) ← fixedDigits 4 s
  let s ← expect '-' s
  let (month, s) ← fixedDigits 2 s
  let s ← expect '-' s
  let (day, s) ← fixedDigits 2 s
  if 1 ≤ month && month ≤ 12 && 1 ≤ day && day ≤ daysIn year month then some s else none

/-- What follows the seconds of a time, which may have a fraction and may be
left out. -/
def seconds? : List Char → Option (List Char)
  | ':' :: s => do
      let (second, s) ← fixedDigits 2 s
      if second ≤ 60 then
        match s with
        | '.' :: rest =>
            if (rest.takeWhile Char.isDigit).isEmpty then none
            else some (rest.dropWhile Char.isDigit)
        | s => some s
      else none
  | s => some s

/-- What follows a time of day. -/
def time? (s : List Char) : Option (List Char) := do
  let (hour, s) ← fixedDigits 2 s
  let s ← expect ':' s
  let (minute, s) ← fixedDigits 2 s
  if hour ≤ 23 && minute ≤ 59 then seconds? s else none

/-- Whether the text is nothing or an offset from universal time. -/
def isOffset : List Char → Bool
  | [] => true
  | ['Z'] => true
  | ['z'] => true
  | sign :: s =>
      (sign == '+' || sign == '-') &&
        ((do
          let (hour, s) ← fixedDigits 2 s
          let s ← expect ':' s
          let (minute, s) ← fixedDigits 2 s
          some (hour ≤ 23 && minute ≤ 59 && s.isEmpty)).getD false)

/-- Whether the text is a date, a time, or both. -/
def isDatetime (s : List Char) : Bool :=
  match date? s with
  | some [] => true
  | some (mark :: rest) =>
      (mark == 'T' || mark == 't' || mark == ' ') && (time? rest).any isOffset
  | none => (time? s).any List.isEmpty

/-! ## Scalars -/

/-- The value written without quotes. -/
def scalar? (s : List Char) : Option Toml :=
  if s == "true".toList then some (.boolean true)
  else if s == "false".toList then some (.boolean false)
  else
    match integer? s with
    | some value => some (.integer value)
    | none =>
        if isFloat s then
          (if overflows s then none else some (.float (String.ofList s)))
        else if isDatetime s then some (.datetime (String.ofList s))
        else none

def isScalarChar (c : Char) : Bool :=
  c.isAlphanum || c == '+' || c == '-' || c == '_' || c == '.' || c == ':'

/-- The characters of a value without quotes. A blank belongs to it between a
date and a time. -/
def scalarRun (s : List Char) : List Char × List Char :=
  let run := s.takeWhile isScalarChar
  match s.dropWhile isScalarChar with
  | ' ' :: c :: rest =>
      if c.isDigit && date? run == some [] then
        (run ++ ' ' :: (c :: rest).takeWhile isScalarChar,
          (c :: rest).dropWhile isScalarChar)
      else (run, ' ' :: c :: rest)
  | rest => (run, rest)

/-- The value without quotes at the start of the text, and what follows it. -/
def readScalar (s : List Char) : Option (Toml × List Char) :=
  let (run, rest) := scalarRun s
  (scalar? run).map (·, rest)

end CounterTables.Toml
