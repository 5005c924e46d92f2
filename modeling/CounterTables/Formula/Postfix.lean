import CounterTables.Formula.Operator

/-!
# Formulas in reverse Polish order

A compiled formula is a sequence of operands and operators in which every
operator follows its two operands. Its text is the sequence with single spaces
between the items; this is the form stored in the tables.
-/

namespace CounterTables.Formula

inductive Item
  | operand (name : String)
  | operator (op : Operator)
  deriving DecidableEq

def Item.text : Item → String
  | operand name => name
  | operator op => op.symbol.toString

/-- A compiled formula. -/
structure Postfix where
  items : List Item
  deriving DecidableEq

namespace Postfix

/-- The operands in order of evaluation, repeated ones included. -/
def operands (formula : Postfix) : List String :=
  formula.items.filterMap fun
    | .operand name => some name
    | .operator _ => none

def size (formula : Postfix) : Nat :=
  formula.items.length

def isEmpty (formula : Postfix) : Bool :=
  formula.items.isEmpty

/-- The items with single spaces between them. -/
def text (formula : Postfix) : String :=
  " ".intercalate (formula.items.map Item.text)

end Postfix

end CounterTables.Formula
