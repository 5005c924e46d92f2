import CounterTables.Formula.Operator

/-!
# What is wrong with a formula

`SyntaxError` says why a formula was refused and `EvalError` why a compiled
formula has no value. Each has one function that words it. Positions are byte
offsets in the UTF-8 text of the formula.
-/

namespace CounterTables.Formula

/-! ## Refused formulas -/

inductive SyntaxError
  /-- The formula holds no token. -/
  | empty
  /-- A character that no token can hold or start with. -/
  | unexpectedCharacter (character : Char) (position : Nat)
  /-- A token that cannot follow the tokens before it. -/
  | unexpectedToken (token : String) (position : Nat)
  /-- The formula ends where an operand is still due. -/
  | unexpectedEnd (position : Nat)
  /-- A parenthesis without its partner. -/
  | unbalancedParentheses (position : Nat)
  deriving DecidableEq

namespace SyntaxError

/-- The byte offset of the fault; an empty formula has none. -/
def position? : SyntaxError → Option Nat
  | empty => none
  | unexpectedCharacter _ position => some position
  | unexpectedToken _ position => some position
  | unexpectedEnd position => some position
  | unbalancedParentheses position => some position

def message : SyntaxError → String
  | empty => "formula is empty"
  | unexpectedCharacter character position =>
      s!"unexpected character '{character}' at position {position}"
  | unexpectedToken token position =>
      s!"unexpected token '{token}' at position {position}"
  | unexpectedEnd position => s!"unexpected end of formula at position {position}"
  | unbalancedParentheses position => s!"unbalanced parentheses at position {position}"

end SyntaxError

/-! ## Formulas without a value -/

/-- How a sequence of items fails to be a formula in reverse Polish order. -/
inductive Malformed
  /-- An operator stands where fewer than two values are at hand. -/
  | missingOperand (op : Operator)
  /-- There is no value at the end. -/
  | noOperands
  /-- There are several values at the end. -/
  | operandsLeft (count : Nat)
  deriving DecidableEq

def Malformed.message : Malformed → String
  | missingOperand op => s!"operator '{op.symbol}' is missing an operand"
  | noOperands => "no operands"
  | operandsLeft count => s!"{count} operands left without an operator"

inductive EvalError
  /-- An operand that is neither known nor a number. -/
  | unknownOperand (name : String)
  | malformed (fault : Malformed)
  deriving DecidableEq

def EvalError.message : EvalError → String
  | unknownOperand name => s!"unknown operand '{name}'"
  | malformed fault => s!"malformed postfix expression: {fault.message}"

end CounterTables.Formula
