import CounterTables.Text.Blank
import CounterTables.Formula.Error

/-!
# Tokens of a formula

A formula is a sequence of operands, operators and parentheses; blanks only keep
tokens apart. An operand is a longest run of ASCII letters, digits and
underscores. A run that starts with a digit may take in one point, and only
where a digit follows it. Operands are lower-cased.

The scan walks over the characters and counts them. Everything it passes is
ASCII, so the count of characters passed is the byte offset of the next one.

## Main definitions

* `Lexeme`, `Token` — what a token says, and where it starts.
* `operandLength` — how far an operand reaches.
* `tokenize` — all tokens of a formula, or the first character that fits none.
-/

namespace CounterTables.Formula

open CounterTables.Text (isAsciiBlank)

/-! ## Lexemes -/

inductive Lexeme
  | operand (name : String)
  | operator (op : Operator)
  | openParen
  | closeParen
  deriving DecidableEq

namespace Lexeme

/-- The text of the lexeme as a message quotes it. -/
def text : Lexeme → String
  | operand name => name
  | operator op => op.symbol.toString
  | openParen => "("
  | closeParen => ")"

/-- The lexeme of a character that is a token by itself. -/
def ofChar? (c : Char) : Option Lexeme :=
  if c = '(' then some openParen
  else if c = ')' then some closeParen
  else (Operator.ofChar? c).map operator

end Lexeme

/-- A lexeme and the byte offset where it starts. -/
structure Token where
  lexeme : Lexeme
  position : Nat
  deriving DecidableEq

/-! ## Operands -/

/-- ASCII letters, ASCII digits and the underscore. -/
def isOperandChar (c : Char) : Bool :=
  c.isAlphanum || c == '_'

def startsWithDigit : List Char → Bool
  | [] => false
  | c :: _ => c.isDigit

/-- How many characters continue an operand, added to `count`. While `point`
holds, one point may come, if a digit follows it. -/
def operandLength : Bool → Nat → List Char → Nat
  | _, count, [] => count
  | point, count, c :: rest =>
      if isOperandChar c then operandLength point (count + 1) rest
      else if point && c == '.' && startsWithDigit rest then
        operandLength false (count + 1) rest
      else count

/-- The text with its ASCII capitals in lower case. -/
def asciiLower (cs : List Char) : String :=
  String.ofList (cs.map Char.toLower)

/-! ## The scan -/

/-- The tokens of the characters that remain, behind those already found (the
latest first). -/
def scan (position : Nat) (found : List Token) :
    List Char → Except SyntaxError (List Token)
  | [] => .ok found.reverse
  | c :: rest =>
      if isAsciiBlank c then
        scan (position + 1) found rest
      else if isOperandChar c then
        let more := operandLength c.isDigit 0 rest
        let operand := ⟨.operand (asciiLower (c :: rest.take more)), position⟩
        scan (position + 1 + more) (operand :: found) (rest.drop more)
      else
        match Lexeme.ofChar? c with
        | some lexeme => scan (position + 1) (⟨lexeme, position⟩ :: found) rest
        | none => .error (.unexpectedCharacter c position)
termination_by cs => cs.length
decreasing_by all_goals simp only [List.length_cons, List.length_drop]; omega

/-- The tokens of a formula in order, or the first character that belongs to no
token. -/
def tokenize (source : String) : Except SyntaxError (List Token) :=
  scan 0 [] source.toList

end CounterTables.Formula
