/-!
# The four operators

Every operator takes two operands and groups to the left; products bind tighter
than sums.

## Main statements

* `ofChar?_symbol` — an operator is read back from its symbol.
* `ofChar?_eq_some_iff` — no other character is an operator.
-/

namespace CounterTables.Formula

inductive Operator
  | add
  | sub
  | mul
  | div
  deriving DecidableEq

namespace Operator

/-- The character that stands for the operator in formulas and in compiled
text. -/
def symbol : Operator → Char
  | add => '+'
  | sub => '-'
  | mul => '*'
  | div => '/'

/-- The operator a character stands for. -/
def ofChar? (c : Char) : Option Operator :=
  if c = '+' then some add
  else if c = '-' then some sub
  else if c = '*' then some mul
  else if c = '/' then some div
  else none

/-- Binding strength: an operator takes its operands before any weaker one
does. -/
def precedence : Operator → Nat
  | add => 1
  | sub => 1
  | mul => 2
  | div => 2

/-- All four operators group from left to right. -/
def groupsLeft : Operator → Bool := fun _ => true

@[simp] theorem ofChar?_symbol (op : Operator) : ofChar? op.symbol = some op := by
  cases op <;> rfl

theorem ofChar?_eq_some_iff {c : Char} {op : Operator} :
    ofChar? c = some op ↔ c = op.symbol := by
  constructor
  · intro h
    unfold ofChar? at h
    repeat' split at h
    all_goals simp_all
    all_goals subst h; rfl
  · rintro rfl
    exact ofChar?_symbol op

end Operator

end CounterTables.Formula
