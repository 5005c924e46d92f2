/-!
# Rounding to binary64

A binary64 number is a whole number of at most 53 bits times a power of two.
`nearestBits` finds the one nearest to a fraction of natural numbers, ties going
to the even significand, and gives its bit pattern. All other readings of
decimal text rest on it.

Powers of two and of ten are written with the operations on natural numbers
themselves, a shift and `Nat.pow`, and not with a general power: so they mean
the same whatever algebra is at hand, and evaluate at once.

## Main definitions

* `twoPow`, `tenPow` — powers of two and of ten.
* `roundHalfEven` — a quotient rounded to the nearest whole number.
* `nearestBits` — the bit pattern nearest to a fraction; too large ones become
  infinity.
* `ofDecimal` — the number nearest to a whole number times a power of ten.
-/

namespace CounterTables.Number

/-! ## Powers -/

/-- The power of two with exponent `k`. -/
def twoPow (k : Nat) : Nat := 1 <<< k

/-- The power of ten with exponent `k`. -/
def tenPow (k : Nat) : Nat := Nat.pow 10 k

/-! ## Rounding -/

/-- The whole number nearest to `num / den`; of two equally near ones the even
one. -/
def roundHalfEven (num den : Nat) : Nat :=
  let quotient := num / den
  let twice := 2 * (num % den)
  if twice < den then quotient
  else if den < twice then quotient + 1
  else quotient + quotient % 2

/-- The bit pattern of positive infinity. -/
def infinityBits : Nat := 0x7FF0000000000000

/-- The bit pattern of the binary64 number nearest to `num / den`. With a
significand of 53 bits the exponent is the one that keeps the quotient between
`2 ^ 52` and `2 ^ 53`, but never below the least exponent of the format. A
significand rounded up to `2 ^ 53` carries into the exponent field. -/
def nearestBits (num den : Nat) : Nat :=
  if num = 0 then 0
  else
    let guess : Int := (num.log2 : Int) - den.log2
    -- `2 ^ (guess - 1) < num / den < 2 ^ (guess + 1)`
    let scaled (e : Int) : Nat × Nat :=
      if 0 ≤ e then (num, den * twoPow e.toNat) else (num * twoPow (-e).toNat, den)
    let reaches (e : Int) : Bool :=
      let (n, d) := scaled e
      d * twoPow 52 ≤ n
    let exponent := if reaches (guess - 52) then guess - 52 else guess - 53
    let exponent := max exponent (-1074)
    let (n, d) := scaled exponent
    let bits := (exponent + 1074).toNat * twoPow 52 + roundHalfEven n d
    min bits infinityBits

/-- The number of decimal digits of a natural number. -/
def digitCount (n : Nat) : Nat :=
  (Nat.toDigits 10 n).length

/-- The binary64 number nearest to `significand * 10 ^ exponent`. Numbers of at
least `10 ^ 310` are infinite and numbers below `10 ^ -326` are zero, whatever
their digits. -/
def ofDecimal (significand : Nat) (exponent : Int) : Float :=
  let magnitude := exponent + digitCount significand
  let bits :=
    if significand = 0 || magnitude < -326 then 0
    else if 310 < magnitude then infinityBits
    else if 0 ≤ exponent then nearestBits (significand * tenPow exponent.toNat) 1
    else nearestBits significand (tenPow (-exponent).toNat)
  Float.ofBits (UInt64.ofNat bits)

end CounterTables.Number
