import CounterTables.Formula.Token
import CounterTables.Formula.Postfix

/-!
# From tokens to reverse Polish order

One pass over the tokens with a stack of operators and open parentheses. An
operator first moves to the output every operator on top of the stack that binds
at least as tightly; a closing parenthesis moves all operators down to its
partner. Between two tokens the compiler knows whether an operand is due, so a
token that cannot follow is found where it stands.

## Main definitions

* `Compiler` — output, stack and expectation between two tokens.
* `Compiler.step` — the effect of one token.
* `compile` — the compiled formula, or the first fault.
-/

namespace CounterTables.Formula

/-! ## State -/

/-- An operator that still waits for its right operand, or an open parenthesis
and its offset. -/
inductive Pending
  | operator (op : Operator)
  | openParen (position : Nat)
  deriving DecidableEq

/-- The state between two tokens. Output and stack have their latest entry
first. -/
structure Compiler where
  output : List Item
  stack : List Pending
  operandDue : Bool
  deriving DecidableEq

namespace Compiler

def start : Compiler := ⟨[], [], true⟩

/-! ## Moving operators to the output -/

/-- Whether the operator `top` on the stack takes its operands before `next`
does. -/
def bindsBefore (top next : Operator) : Bool :=
  next.precedence < top.precedence
    || (top.precedence == next.precedence && next.groupsLeft)

/-- Moves the operators on top of the stack that bind before `next`. -/
def release (next : Operator) : List Pending → List Item → List Pending × List Item
  | .operator top :: rest, output =>
      if bindsBefore top next then release next rest (.operator top :: output)
      else (.operator top :: rest, output)
  | stack, output => (stack, output)

/-- Moves all operators down to the last open parenthesis, which is dropped. -/
def closeGroup : List Pending → List Item → List Pending × List Item
  | .operator top :: rest, output => closeGroup rest (.operator top :: output)
  | .openParen _ :: rest, output => (rest, output)
  | [], output => ([], output)

/-- Whether a parenthesis is open. -/
def hasOpen (stack : List Pending) : Bool :=
  stack.any fun
    | .openParen _ => true
    | .operator _ => false

/-! ## Steps -/

/-- The state after one more token. -/
def step (state : Compiler) (token : Token) : Except SyntaxError Compiler :=
  let unexpected : Except SyntaxError Compiler :=
    .error (.unexpectedToken token.lexeme.text token.position)
  match token.lexeme with
  | .operand name =>
      if state.operandDue then
        .ok { state with output := .operand name :: state.output, operandDue := false }
      else unexpected
  | .operator op =>
      if state.operandDue then unexpected
      else
        let (stack, output) := release op state.stack state.output
        .ok ⟨output, .operator op :: stack, true⟩
  | .openParen =>
      if state.operandDue then
        .ok { state with stack := .openParen token.position :: state.stack }
      else unexpected
  | .closeParen =>
      if !hasOpen state.stack then .error (.unbalancedParentheses token.position)
      else if state.operandDue then unexpected
      else
        let (stack, output) := closeGroup state.stack state.output
        .ok ⟨output, stack, false⟩

/-- The state after all of `tokens`, or the first fault. -/
def run (state : Compiler) : List Token → Except SyntaxError Compiler
  | [] => .ok state
  | token :: rest =>
      match step state token with
      | .ok next => run next rest
      | .error fault => .error fault

/-- Moves the operators that are left; a parenthesis among them was never
closed. -/
def drain : List Pending → List Item → Except SyntaxError (List Item)
  | [], output => .ok output
  | .operator top :: rest, output => drain rest (.operator top :: output)
  | .openParen position :: _, _ => .error (.unbalancedParentheses position)

/-- The compiled formula after the last token of a source of `size` bytes. -/
def finish (state : Compiler) (size : Nat) : Except SyntaxError Postfix :=
  if state.operandDue then .error (.unexpectedEnd size)
  else (drain state.stack state.output).map fun output => ⟨output.reverse⟩

end Compiler

/-! ## Compilation -/

/-- The compiled form of a sequence of tokens from a source of `size` bytes. -/
def compileTokens (size : Nat) (tokens : List Token) : Except SyntaxError Postfix :=
  if tokens.isEmpty then .error .empty
  else
    match Compiler.start.run tokens with
    | .ok state => state.finish size
    | .error fault => .error fault

/-- The formula in reverse Polish order, or the first fault of its text. -/
def compile (source : String) : Except SyntaxError Postfix :=
  match tokenize source with
  | .ok tokens => compileTokens source.utf8ByteSize tokens
  | .error fault => .error fault

end CounterTables.Formula
