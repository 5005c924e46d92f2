import CounterTables.Number.Binary64

/-!
# Shortest decimal text of a binary64 number

Among the decimals that round to a given number, the shortest have the fewest
digits, and the text is the nearest of those. With `n` digits only two decimals
come into question: the neighbours of the number on the grid of `n` digits. So
the grids are tried from the coarsest on, and seventeen digits always suffice.

## Main definitions

* `Dyadic` — the exact value of a finite positive number, as whole number times
  power of two.
* `Decimal` — digits times a power of ten.
* `Dyadic.shortest` — the shortest decimal that rounds to the number.
-/

namespace CounterTables.Number

/-- A whole number times a power of two. -/
structure Dyadic where
  significand : Nat
  exponent : Int

/-- A whole number times a power of ten. -/
structure Decimal where
  digits : Nat
  exponent : Int

namespace Dyadic

/-- The absolute value of the finite number with this bit pattern. -/
def ofBits (bits : Nat) : Dyadic :=
  let fraction : Nat := bits % twoPow 52
  let field : Nat := bits / twoPow 52 % twoPow 11
  if field = 0 then ⟨fraction, -1074⟩
  else ⟨twoPow 52 + fraction, (field : Int) - 1075⟩

/-- The number and the ends of the interval that rounds to it, as multiples of a
common unit, and the unit as a fraction. Below a power of two the next number is
only half as far. -/
structure Interval where
  low : Nat
  value : Nat
  high : Nat
  closed : Bool
  num : Nat
  den : Nat

def interval (x : Dyadic) : Interval :=
  let atPower := x.significand == twoPow 52 && -1074 < x.exponent
  let quarter := x.exponent - 2
  { low := 4 * x.significand - (if atPower then 1 else 2)
    value := 4 * x.significand
    high := 4 * x.significand + 2
    closed := x.significand % 2 == 0
    num := if 0 ≤ quarter then twoPow quarter.toNat else 1
    den := if 0 ≤ quarter then 1 else twoPow (-quarter).toNat }

/-- The exponent of the leading digit of `num / den`. -/
def leadingExponent (num den : Nat) : Int :=
  if den ≤ num then digitCount (num / den) - 1
  else
    let digits := digitCount (den / num)
    if den = num * tenPow (digits - 1) then -((digits : Int) - 1) else -(digits : Int)

/-- The decimal of `count` digits that rounds to the number, if there is one:
the lower or the upper neighbour on the grid, the nearer one if both do, the
even one if both are equally near. -/
def onGrid (i : Interval) (count : Nat) : Option Decimal :=
  let exponent := leadingExponent (i.value * i.num) i.den - count + 1
  -- multiples of the unit, and grid points, over one denominator
  let unit := i.num * (if exponent < 0 then tenPow (-exponent).toNat else 1)
  let step := i.den * (if exponent < 0 then 1 else tenPow exponent.toNat)
  let inside (point : Nat) : Bool :=
    let place := point * step
    if i.closed then i.low * unit ≤ place && place ≤ i.high * unit
    else i.low * unit < place && place < i.high * unit
  let below := i.value * unit / step
  let above := below + 1
  match inside below, inside above with
  | false, false => none
  | true, false => some ⟨below, exponent⟩
  | false, true => some ⟨above, exponent⟩
  | true, true =>
      let toBelow := i.value * unit - below * step
      let toAbove := above * step - i.value * unit
      let takesBelow := toBelow < toAbove || (toBelow == toAbove && below % 2 == 0)
      some ⟨if takesBelow then below else above, exponent⟩

/-- The shortest decimal that rounds to a positive number. -/
def shortest (x : Dyadic) : Decimal :=
  ((List.range 17).findSome? fun n => onGrid x.interval (n + 1)).getD ⟨0, 0⟩

end Dyadic

namespace Decimal

/-- The digits without the zeros at their end, and the exponent of the last one
left. -/
def normal (d : Decimal) : List Char × Int :=
  let digits := Nat.toDigits 10 d.digits
  let zeros := (digits.reverse.takeWhile (· == '0')).length
  (digits.take (digits.length - zeros), d.exponent + zeros)

end Decimal

/-! ## Text -/

/-- When a number is written with a point and when with an exponent. -/
structure FloatFormat where
  /-- The least exponent of the leading digit that is written with a point. -/
  least : Int
  /-- The first exponent of the leading digit that is written as an exponent
  again. -/
  limit : Int

/-- The text of a decimal with a point in its place, and at least one digit on
either side. -/
def positional (digits : List Char) (exponent : Int) : List Char :=
  if 0 ≤ exponent then
    digits ++ List.replicate exponent.toNat '0' ++ ['.', '0']
  else
    let places := (-exponent).toNat
    if places < digits.length then
      digits.take (digits.length - places) ++
        '.' :: digits.drop (digits.length - places)
    else
      ['0', '.'] ++ List.replicate (places - digits.length) '0' ++ digits

/-- The text of a decimal with one digit before the point and a signed
exponent. -/
def scientific (digits : List Char) (exponent : Int) : List Char :=
  let leading : Int := exponent + digits.length - 1
  let sign := if leading < 0 then '-' else '+'
  let fraction :=
    match digits.drop 1 with
    | [] => []
    | rest => '.' :: rest
  digits.take 1 ++ fraction ++ 'e' :: sign :: Nat.toDigits 10 leading.natAbs

/-- The shortest text of a finite number. -/
def shortestText (format : FloatFormat) (x : Float) : String :=
  let bits := x.toBits.toNat
  let negative := twoPow 63 ≤ bits
  let dyadic := Dyadic.ofBits bits
  let text :=
    if dyadic.significand = 0 then ['0', '.', '0']
    else
      let (digits, exponent) := dyadic.shortest.normal
      let leading : Int := exponent + digits.length - 1
      if format.least ≤ leading && leading < format.limit then
        positional digits exponent
      else scientific digits exponent
  String.ofList (if negative then '-' :: text else text)

end CounterTables.Number
