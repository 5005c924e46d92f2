import CounterTables.Number.Binary64
import CounterTables.Text.Blank
import CounterTables.Text.Padding

/-!
# Event codes

An event code is a whole number of 16 bits. It is read from hexadecimal text
after `0x` or `0X`, or from decimal text, with blanks around and an optional
sign before the digits. Numbers that need more than 128 bits count as malformed;
all others that do not fit 16 bits are out of range.

## Main definitions

* `EventCode.ofInt` — the code with a given value.
* `EventCode.parse` — the code that a text denotes.
* `EventCode.hex` — the hexadecimal text of a code.
-/

namespace CounterTables

open CounterTables.Number (twoPow)
open CounterTables.Text (trim padZeros)

/-! ## Codes -/

structure EventCode where
  value : Nat
  value_lt : value < 65536
  deriving DecidableEq

inductive EventCodeError
  /-- The text is no number. -/
  | invalid (text : String)
  /-- The number has no 16-bit form. -/
  | outOfRange (value : Int)
  deriving DecidableEq

def EventCodeError.message : EventCodeError → String
  | invalid text => s!"event code '{text}' is not a hexadecimal or decimal number"
  | outOfRange value => s!"event code {value} does not fit in 16 bits"

namespace EventCode

/-- The code with the value of a whole number. -/
def ofInt (value : Int) : Except EventCodeError EventCode :=
  if h : 0 ≤ value ∧ value < 65536 then
    .ok ⟨value.toNat, by omega⟩
  else .error (.outOfRange value)

/-! ## Reading -/

/-- The value of a digit in a base up to sixteen. -/
def digit? (base : Nat) (c : Char) : Option Nat :=
  let value? :=
    if '0' ≤ c && c ≤ '9' then some (c.toNat - '0'.toNat)
    else if 'a' ≤ c && c ≤ 'f' then some (c.toNat - 'a'.toNat + 10)
    else if 'A' ≤ c && c ≤ 'F' then some (c.toNat - 'A'.toNat + 10)
    else none
  value?.filter (· < base)

/-- The value of the digits after those of `value`. -/
def readDigits (base value : Nat) : List Char → Option Nat
  | [] => some value
  | c :: rest =>
      match digit? base c with
      | some digit => readDigits base (base * value + digit) rest
      | none => none

/-- The sign of a numeral, and what follows it. -/
def readSign : List Char → Bool × List Char
  | '-' :: rest => (true, rest)
  | '+' :: rest => (false, rest)
  | cs => (false, cs)

/-- The value of an optional sign and at least one digit, if it fits 128
bits. -/
def readInt (base : Nat) (cs : List Char) : Option Int :=
  let (negative, digits) := readSign cs
  if digits.isEmpty then none
  else
    match readDigits base 0 digits with
    | some magnitude =>
        let value : Int := if negative then -magnitude else magnitude
        if -(twoPow 127 : Int) ≤ value && value < twoPow 127 then some value else none
    | none => none

/-- The base that a text asks for, and the text after the mark of the base. -/
def readBase : List Char → Nat × List Char
  | '0' :: 'x' :: rest => (16, rest)
  | '0' :: 'X' :: rest => (16, rest)
  | cs => (10, cs)

/-- The code that a text denotes. -/
def parse (text : String) : Except EventCodeError EventCode :=
  let (base, numeral) := readBase (trim text.toList)
  match readInt base numeral with
  | some value => ofInt value
  | none => .error (.invalid text)

/-! ## Writing -/

/-- The mark `0x` and the hexadecimal digits, with zeros up to `minDigits` of
them. -/
def hex (code : EventCode) (minDigits : Nat) : Option String :=
  (padZeros minDigits (String.ofList (Nat.toDigits 16 code.value))).map ("0x" ++ ·)

/-- The four-digit form, which every code has. -/
def hex4 (code : EventCode) : String :=
  let digits := Nat.toDigits 16 code.value
  "0x" ++ String.ofList (List.replicate (4 - digits.length) '0' ++ digits)

end EventCode

end CounterTables
