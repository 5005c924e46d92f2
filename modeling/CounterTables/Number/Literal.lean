import CounterTables.Number.Binary64

/-!
# Decimal literals

A literal is a run of digits, then perhaps a point with any number of digits,
then perhaps an exponent: `e`, a sign or none, and at least one digit. Its value
is the nearest binary64 number.
-/

namespace CounterTables.Number

/-- The number whose decimal digits are given. -/
def ofDigits (digits : List Char) : Nat :=
  digits.foldl (fun value c => 10 * value + (c.toNat - '0'.toNat)) 0

/-- The exponent that follows a significand; `none` if the text is not one. -/
def readExponent : List Char → Option Int
  | [] => some 0
  | marker :: rest =>
      if marker == 'e' || marker == 'E' then
        let (negative, digits) :=
          match rest with
          | '-' :: digits => (true, digits)
          | '+' :: digits => (false, digits)
          | digits => (false, digits)
        if digits.isEmpty || !digits.all Char.isDigit then none
        else some (if negative then -(ofDigits digits : Int) else ofDigits digits)
      else none

/-- The value of a literal; `none` if the text is not one. -/
def readLiteral (text : List Char) : Option Float :=
  let whole := text.takeWhile Char.isDigit
  if whole.isEmpty then none
  else
    let (fraction, rest) :=
      match text.dropWhile Char.isDigit with
      | '.' :: rest => (rest.takeWhile Char.isDigit, rest.dropWhile Char.isDigit)
      | rest => ([], rest)
    (readExponent rest).map fun exponent =>
      ofDecimal (ofDigits (whole ++ fraction)) (exponent - fraction.length)

end CounterTables.Number
