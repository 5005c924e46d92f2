import CounterTables.Text.Blank
import CounterTables.Formula.Token
import CounterTables.Formula.Postfix
import CounterTables.Number.Literal

/-!
# Values of compiled formulas

A stack machine runs over the items: an operand pushes its value, an operator
replaces the two top values by its result. A division by zero leaves zero in its
place and makes the whole formula zero.

The numbers are left open: `Arithmetic` says what the machine needs of them. The
tables' formulas are computed in binary64: IEEE operations, a zero test that
both zeros pass, and correctly rounded literals.

## Main definitions

* `Arithmetic` — the operations, the test for zero, and the reading of literals.
* `Machine`, `Machine.step` — the state between two items and the effect of one.
* `evaluate` — the value of a compiled formula.
* `evaluateText` — the value of the text form.
* `Number.binary64` — the arithmetic of the tables.
-/

namespace CounterTables.Formula

open CounterTables.Text (words)

/-! ## Numbers -/

/-- What evaluation needs of its numbers. -/
structure Arithmetic (α : Type) where
  apply : Operator → α → α → α
  zero : α
  isZero : α → Bool
  /-- The number an operand is the literal of. -/
  literal? : String → Option α

namespace Arithmetic

variable {α : Type}

/-- The value of an operand: the known one, else that of a literal, which starts
with a digit. -/
def resolve (numbers : Arithmetic α) (lookup : String → Option α) (name : String) :
    Option α :=
  match lookup name with
  | some value => some value
  | none => if startsWithDigit name.toList then numbers.literal? name else none

/-- The result of an operator, and whether it was a division by zero. -/
def perform (numbers : Arithmetic α) (op : Operator) (lhs rhs : α) : α × Bool :=
  if op = .div && numbers.isZero rhs then (numbers.zero, true)
  else (numbers.apply op lhs rhs, false)

end Arithmetic

/-! ## The machine -/

/-- The values at hand, the latest first, and whether a division by zero has
happened. -/
structure Machine (α : Type) where
  stack : List α
  dividedByZero : Bool

namespace Machine

variable {α : Type}

def start : Machine α := ⟨[], false⟩

def step (numbers : Arithmetic α) (lookup : String → Option α) (machine : Machine α) :
    Item → Except EvalError (Machine α)
  | .operand name =>
      match numbers.resolve lookup name with
      | some value => .ok { machine with stack := value :: machine.stack }
      | none => .error (.unknownOperand name)
  | .operator op =>
      match machine.stack with
      | rhs :: lhs :: rest =>
          let (value, byZero) := numbers.perform op lhs rhs
          .ok ⟨value :: rest, machine.dividedByZero || byZero⟩
      | _ => .error (.malformed (.missingOperand op))

def run (numbers : Arithmetic α) (lookup : String → Option α) (machine : Machine α) :
    List Item → Except EvalError (Machine α)
  | [] => .ok machine
  | item :: rest =>
      match machine.step numbers lookup item with
      | .ok next => next.run numbers lookup rest
      | .error fault => .error fault

/-- The value at the end: exactly one must be left. -/
def result (numbers : Arithmetic α) (machine : Machine α) : Except EvalError α :=
  match machine.stack with
  | [value] => .ok (if machine.dividedByZero then numbers.zero else value)
  | [] => .error (.malformed .noOperands)
  | values => .error (.malformed (.operandsLeft values.length))

end Machine

/-! ## Evaluation -/

variable {α : Type}

/-- The value of a sequence of items. -/
def evaluateItems (numbers : Arithmetic α) (lookup : String → Option α)
    (items : List Item) : Except EvalError α :=
  match Machine.start.run numbers lookup items with
  | .ok machine => machine.result numbers
  | .error fault => .error fault

/-- The value of a compiled formula. -/
def evaluate (numbers : Arithmetic α) (lookup : String → Option α) (formula : Postfix) :
    Except EvalError α :=
  evaluateItems numbers lookup formula.items

/-- The item a word of compiled text stands for. -/
def Item.ofWord : List Char → Item
  | [c] =>
      match Operator.ofChar? c with
      | some op => .operator op
      | none => .operand (String.ofList [c])
  | word => .operand (String.ofList word)

/-- The items of compiled text: its words in lower case. -/
def readItems (compiled : String) : List Item :=
  (words (compiled.toList.map Char.toLower)).map Item.ofWord

/-- The value of compiled text. -/
def evaluateText (numbers : Arithmetic α) (lookup : String → Option α)
    (compiled : String) : Except EvalError α :=
  evaluateItems numbers lookup (readItems compiled)

end CounterTables.Formula

/-! ## Binary64 -/

namespace CounterTables.Number

open CounterTables.Formula (Arithmetic Operator)

/-- The plain IEEE operation. -/
def applyOperator : Operator → Float → Float → Float
  | .add, lhs, rhs => lhs + rhs
  | .sub, lhs, rhs => lhs - rhs
  | .mul, lhs, rhs => lhs * rhs
  | .div, lhs, rhs => lhs / rhs

def binary64 : Arithmetic Float where
  apply := applyOperator
  zero := 0.0
  isZero value := value == 0.0
  literal? name := readLiteral name.toList

end CounterTables.Number
