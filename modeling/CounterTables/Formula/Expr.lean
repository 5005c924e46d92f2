import CounterTables.Formula.Evaluate
import CounterTables.Formula.Compile

/-!
# Expression trees

The meaning of a formula is a tree of operands and operators. This module gives
the tree its grammar over lexemes, its reverse Polish order, its value by
recursion, and two ways to write it down: with as few parentheses as possible,
and with all of them.

## Main definitions

* `Expr` and `Expr.Derives` — trees, and the sequences of lexemes that denote
  them.
* `Expr.postOrder` — left operand, right operand, operator.
* `Expr.value`, `Expr.evaluate` — the value by recursion on the tree.
* `Expr.minimal`, `Expr.full` — the two renderings.
-/

namespace CounterTables.Formula

inductive Expr
  | operand (name : String)
  | binary (op : Operator) (lhs rhs : Expr)
  deriving DecidableEq

namespace Expr

/-! ## Grammar -/

/-- The three levels of the grammar: sums of products of factors. -/
inductive Level
  | sum
  | product
  | factor

/-- The level at which an operator joins its operands. -/
def Level.ofOperator : Operator → Level
  | .add => .sum
  | .sub => .sum
  | .mul => .product
  | .div => .product

/-- The level of the right operand of an operator that joins at this level. -/
def Level.tighter : Level → Level
  | .sum => .product
  | .product => .factor
  | .factor => .factor

/-- The lexemes that denote a tree at each level. An operator takes a left
operand of its own level and a right operand of the tighter one, so each
sequence denotes at most one tree. -/
inductive Derives : Level → List Lexeme → Expr → Prop
  /-- An operand is a factor. -/
  | operand (name : String) : Derives .factor [.operand name] (operand name)
  /-- A sum in parentheses is a factor. -/
  | group {inner : List Lexeme} {tree : Expr} :
      Derives .sum inner tree →
      Derives .factor (.openParen :: inner ++ [.closeParen]) tree
  /-- A factor is a product. -/
  | product {lexemes : List Lexeme} {tree : Expr} :
      Derives .factor lexemes tree → Derives .product lexemes tree
  /-- A product is a sum. -/
  | sum {lexemes : List Lexeme} {tree : Expr} :
      Derives .product lexemes tree → Derives .sum lexemes tree
  /-- An operator between its operands. -/
  | binary (op : Operator) {left right : List Lexeme} {lhs rhs : Expr} :
      Derives (Level.ofOperator op) left lhs →
      Derives (Level.ofOperator op).tighter right rhs →
      Derives (Level.ofOperator op) (left ++ .operator op :: right) (binary op lhs rhs)

/-! ## Reverse Polish order -/

/-- Left operand, right operand, operator. -/
def postOrder : Expr → List Item
  | operand name => [.operand name]
  | binary op lhs rhs => lhs.postOrder ++ rhs.postOrder ++ [.operator op]

/-- The operands from left to right. -/
def names : Expr → List String
  | operand name => [name]
  | binary _ lhs rhs => lhs.names ++ rhs.names

/-- The tree with every operand replaced. -/
def mapNames (f : String → String) : Expr → Expr
  | operand name => operand (f name)
  | binary op lhs rhs => binary op (lhs.mapNames f) (rhs.mapNames f)

/-! ## Value -/

variable {α : Type}

/-- The value of the tree where every operand has one, and whether a division by
zero occurs in it. A division by zero has the value zero for the operator above
it. -/
def value (numbers : Arithmetic α) (known : String → α) : Expr → α × Bool
  | operand name => (known name, false)
  | binary op lhs rhs =>
      let (left, leftByZero) := lhs.value numbers known
      let (right, rightByZero) := rhs.value numbers known
      let (result, byZero) := numbers.perform op left right
      (result, leftByZero || rightByZero || byZero)

/-- The value of a formula: zero if any division in it is by zero; an operand
without a value is an error, the leftmost one first. -/
def evaluate (numbers : Arithmetic α) (lookup : String → Option α) (tree : Expr) :
    Except EvalError α :=
  match tree.names.find? fun name => (numbers.resolve lookup name).isNone with
  | some name => .error (.unknownOperand name)
  | none =>
      let (result, byZero) :=
        tree.value numbers fun name => (numbers.resolve lookup name).getD numbers.zero
      .ok (if byZero then numbers.zero else result)

/-! ## Renderings -/

/-- How tightly the outermost operator of the tree binds; an operand binds
tightest. -/
def strength : Expr → Nat
  | operand _ => 3
  | binary op _ _ => op.precedence

/-- The text between parentheses, if `grouped` asks for them. -/
def enclose (grouped : Bool) (text : List Lexeme) : List Lexeme :=
  if grouped then .openParen :: text ++ [.closeParen] else text

/-- The lexemes with the fewest parentheses: around a left operand whose
operator binds weaker, and around a right operand whose operator does not bind
tighter. -/
def minimal : Expr → List Lexeme
  | operand name => [.operand name]
  | binary op lhs rhs =>
      enclose (lhs.strength < op.precedence) lhs.minimal
        ++ .operator op :: enclose (rhs.strength ≤ op.precedence) rhs.minimal

/-- The lexemes with parentheses around every operator and its operands. -/
def full : Expr → List Lexeme
  | operand name => [.operand name]
  | binary op lhs rhs =>
      .openParen :: lhs.full ++ .operator op :: rhs.full ++ [.closeParen]

end Expr

/-- The text of a sequence of lexemes with single spaces between them. -/
def Lexeme.join (lexemes : List Lexeme) : String :=
  " ".intercalate (lexemes.map Lexeme.text)

end CounterTables.Formula
