import CounterTables.Number.Literal
import CounterTables.Number.Shortest
import CounterTables.Json.Value

/-!
# Numbers in JSON text

A numeral without point and exponent is a whole number if it fits 64 bits;
negative zero and all other numerals are binary64 numbers. Their value is taken
from at most 64 bits of leading digits, followed by one binary64 multiplication
or division by a power of ten, so it may differ from the nearest number in the
last place. A numeral too large for binary64 is refused.

## Main definitions

* `takeDigits` — the leading digits that fit 64 bits.
* `scale` — what they stand for with a power of ten.
* `readNumber` — the number at the start of a text.
* `Number.text` — the text of a number.
-/

namespace CounterTables.Json

open CounterTables.Number (ofDecimal ofDigits shortestText twoPow)

/-! ## Digits -/

/-- The bound of unsigned 64-bit numbers. -/
def wordBound : Nat := twoPow 64

/-- Takes digits while the value stays below two to the power of 64: the value
and the digits that are left. -/
def takeDigits : Nat → List Char → Nat × List Char
  | value, [] => (value, [])
  | value, c :: rest =>
      let next := 10 * value + ofDigits [c]
      if next < wordBound then takeDigits next rest else (value, c :: rest)

/-! ## Scaling -/

/-- A power of ten up to `10 ^ 308`, correctly rounded. -/
def powerOfTen (exponent : Nat) : Float :=
  ofDecimal 1 exponent

/-- Divides by `10 ^ places` in steps of at most `10 ^ 308`. -/
def shrink (value : Float) (places : Nat) : Float :=
  if places ≤ 308 then value / powerOfTen places
  else if value == 0.0 then value
  else shrink (value / powerOfTen 308) (places - 308)
termination_by places

/-- The significand times a power of ten; `none` if the result is infinite. -/
def scale (significand : Nat) (exponent : Int) : Option Float :=
  let value := (UInt64.ofNat significand).toFloat
  if exponent < 0 then some (shrink value (-exponent).toNat)
  else if exponent ≤ 308 then
    let result := value * powerOfTen exponent.toNat
    if result.isInf then none else some result
  else if value == 0.0 then some value
  else none

/-- The largest exponent that is read as a number; larger ones only tell zero
from infinity. -/
def exponentBound : Nat := twoPow 31 - 1

/-- The value of a numeral with a point, an exponent, or too many digits for a
whole number. -/
def floatValue (whole fraction : List Char) (exponent : Int) : Option Float :=
  let (significand, skipped) := takeDigits 0 whole
  let (significand, unread) := takeDigits significand fraction
  let places := fraction.length - unread.length
  if (exponentBound : Int) < exponent then if significand = 0 then some 0.0 else none
  else if exponent < -(exponentBound : Int) then some 0.0
  else scale significand (skipped.length - places + exponent)

/-! ## Reading -/

/-- The sign and digits of an exponent and what follows them. -/
def readExponent : List Char → Option (Int × List Char)
  | '-' :: rest => digits true rest
  | '+' :: rest => digits false rest
  | rest => digits false rest
where
  digits (negative : Bool) (s : List Char) : Option (Int × List Char) :=
    let run := s.takeWhile Char.isDigit
    if run.isEmpty then none
    else
      let value : Int := ofDigits run
      some (if negative then -value else value, s.dropWhile Char.isDigit)

/-- The whole number, or the binary64 number if the whole number needs more than
64 bits. -/
def wholeNumber (negative : Bool) (whole : List Char) : Option Number :=
  let value := ofDigits whole
  if negative then
    if 0 < value && value ≤ twoPow 63 then some (.integer (-value))
    else (floatValue whole [] 0).map fun x => .float (-x)
  else if value < wordBound then some (.integer value)
  else (floatValue whole [] 0).map .float

/-- The number at the start of the text, and what follows it. -/
def readNumber (s : List Char) : Option (Number × List Char) :=
  let (negative, s) :=
    match s with
    | '-' :: rest => (true, rest)
    | s => (false, s)
  let whole := s.takeWhile Char.isDigit
  let rest := s.dropWhile Char.isDigit
  if whole.isEmpty || (whole.head? == some '0' && 1 < whole.length) then none
  else
    let signed (x : Float) : Number := .float (if negative then -x else x)
    let fraction :=
      match rest with
      | '.' :: rest => some (rest.takeWhile Char.isDigit, rest.dropWhile Char.isDigit)
      | _ => none
    match fraction, fraction.elim rest Prod.snd with
    | some ([], _), _ => none
    | fraction, marker :: rest =>
        let digits := fraction.elim [] Prod.fst
        if marker == 'e' || marker == 'E' then
          (readExponent rest).bind fun (exponent, rest) =>
            (floatValue whole digits exponent).map fun x => (signed x, rest)
        else
          match fraction with
          | some (digits, _) =>
              (floatValue whole digits 0).map fun x => (signed x, marker :: rest)
          | none => (wholeNumber negative whole).map fun n => (n, marker :: rest)
    | some (digits, _), [] => (floatValue whole digits 0).map fun x => (signed x, [])
    | none, [] => (wholeNumber negative whole).map fun n => (n, [])

/-! ## Writing -/

/-- Numbers from `1e-5` up to, not including, `1e16` are written with a
point. -/
def floatFormat : CounterTables.Number.FloatFormat := ⟨-5, 16⟩

def Number.text : Number → String
  | .integer value => toString value
  | .float value => shortestText floatFormat value

end CounterTables.Json
