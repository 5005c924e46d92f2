/-!
# Sets of characters

The sets that a pattern can name, built from ranges of code points.

## Main definitions

* `CharSet` — the sets.
* `CharSet.contains` — membership.
* `CharSet.digits`, `CharSet.blanks`, `CharSet.wordChars`, `CharSet.named?` —
  sets with names.
-/

namespace CounterTables

inductive CharSet
  /-- The code points from `first` to `last`. -/
  | range (first last : Nat)
  | union (left right : CharSet)
  | inter (left right : CharSet)
  | complement (set : CharSet)
  /-- The set with the other case of each ASCII letter in it. -/
  | anyCase (set : CharSet)
  deriving DecidableEq

namespace CharSet

/-- The other case of an ASCII letter. -/
def otherCase (code : Nat) : Nat :=
  if 65 ≤ code && code ≤ 90 then code + 32
  else if 97 ≤ code && code ≤ 122 then code - 32
  else code

def contains : CharSet → Nat → Bool
  | range first last, code => first ≤ code && code ≤ last
  | union left right, code => left.contains code || right.contains code
  | inter left right, code => left.contains code && right.contains code
  | complement set, code => !set.contains code
  | anyCase set, code => set.contains code || set.contains (otherCase code)

def empty : CharSet := range 1 0

def single (c : Char) : CharSet := range c.toNat c.toNat

def between (first last : Char) : CharSet := range first.toNat last.toNat

def unions (sets : List CharSet) : CharSet :=
  sets.foldr union empty

/-- What is in the first set and not in the second. -/
def without (left right : CharSet) : CharSet := inter left (complement right)

/-- What is in just one of the sets. -/
def exclusive (left right : CharSet) : CharSet :=
  union (left.without right) (right.without left)

/-- Whether no code point of one byte beyond ASCII is in the set. -/
def isAscii (set : CharSet) : Bool :=
  (List.range 128).all fun code => !set.contains (code + 128)

/-! ## Sets with names -/

def digits : CharSet := between '0' '9'

def uppers : CharSet := between 'A' 'Z'

def lowers : CharSet := between 'a' 'z'

def letters : CharSet := union uppers lowers

def blanks : CharSet := union (range 9 13) (single ' ')

def wordChars : CharSet := unions [digits, letters, single '_']

def punctuation : CharSet :=
  unions [between '!' '/', between ':' '@', between '[' '\x60', between '\x7b' '~']

/-- The set of ASCII characters with a name. -/
def named? (name : String) : Option CharSet :=
  match name with
  | "alnum" => some (union digits letters)
  | "alpha" => some letters
  | "ascii" => some (range 0 127)
  | "blank" => some (union (single '\t') (single ' '))
  | "cntrl" => some (union (range 0 31) (single '\x7f'))
  | "digit" => some digits
  | "graph" => some (between '!' '~')
  | "lower" => some lowers
  | "print" => some (between ' ' '~')
  | "punct" => some punctuation
  | "space" => some blanks
  | "upper" => some uppers
  | "word" => some wordChars
  | "xdigit" => some (unions [digits, between 'A' 'F', between 'a' 'f'])
  | _ => none

end CharSet

end CounterTables
