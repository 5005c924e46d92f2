import CounterTables.Formula.Expr

/-!
# The grammar of formulas

`Expr.Derives` says which lexemes denote a tree. This module gathers what every
later argument needs of it: the three levels are nested, the operands of a tree
are those of its lexemes in the same order, and the shape of a sentence can be
seen without its tree.

Two scans see the shape. `alternates` keeps track of whether an operand is due,
which excludes a sign before an operand, two operands in a row, empty
parentheses and a missing operand at the end. `balances` counts the open
parentheses.

## Main results

* `Derives.weaken` — what denotes a tree at one level does so at every weaker
  one.
* `Derives.operands_eq` — the operands of a sentence are those of its tree.
* `Derives.alternates_append`, `Derives.balances_append` — a sentence leaves
  both scans where they were.
-/

namespace CounterTables.Formula

/-! ## Levels -/

namespace Expr

/-- How tightly a phrase of this level holds together, on the scale of
`Operator.precedence`. -/
def Level.strength : Level → Nat
  | .sum => 1
  | .product => 2
  | .factor => 3

@[simp] theorem Level.strength_ofOperator (op : Operator) :
    (Level.ofOperator op).strength = op.precedence := by
  cases op <;> rfl

@[simp] theorem Level.strength_tighter_ofOperator (op : Operator) :
    (Level.ofOperator op).tighter.strength = op.precedence + 1 := by
  cases op <;> rfl

theorem Level.sum_le (level : Level) : Level.sum.strength ≤ level.strength := by
  cases level <;> decide

theorem precedence_le_two (op : Operator) : op.precedence ≤ 2 := by
  cases op <;> decide

/-- A phrase of one level is a phrase of every weaker level. -/
theorem Derives.weaken {tight weak : Level} {lexemes : List Lexeme}
    {tree : Expr} (h : Derives tight lexemes tree)
    (hle : weak.strength ≤ tight.strength) : Derives weak lexemes tree := by
  cases tight with
  | sum =>
      cases weak with
      | sum => exact h
      | product => exact absurd hle (by decide)
      | factor => exact absurd hle (by decide)
  | product =>
      cases weak with
      | sum => exact .sum h
      | product => exact h
      | factor => exact absurd hle (by decide)
  | factor =>
      cases weak with
      | sum => exact .sum (.product h)
      | product => exact .product h
      | factor => exact h

end Expr

/-! ## Operands in source order -/

/-- The name of an operand. -/
def Lexeme.operand? : Lexeme → Option String
  | operand name => some name
  | _ => none

/-- The operands of a sequence of lexemes, in order. -/
def operandsOf (lexemes : List Lexeme) : List String :=
  lexemes.filterMap Lexeme.operand?

theorem operandsOf_append (left right : List Lexeme) :
    operandsOf (left ++ right) = operandsOf left ++ operandsOf right :=
  List.filterMap_append

theorem mem_operandsOf_iff {lexemes : List Lexeme} {name : String} :
    name ∈ operandsOf lexemes ↔ Lexeme.operand name ∈ lexemes := by
  rw [operandsOf, List.mem_filterMap]
  constructor
  · rintro ⟨lexeme, hmem, hname⟩
    cases lexeme with
    | operand other =>
        obtain rfl : other = name := Option.some.inj hname
        exact hmem
    | operator op => exact absurd hname (by simp [Lexeme.operand?])
    | openParen => exact absurd hname (by simp [Lexeme.operand?])
    | closeParen => exact absurd hname (by simp [Lexeme.operand?])
  · intro hmem
    exact ⟨.operand name, hmem, rfl⟩

namespace Expr

theorem Derives.operands_eq {level : Level} {lexemes : List Lexeme}
    {tree : Expr} (h : Derives level lexemes tree) :
    operandsOf lexemes = tree.names := by
  induction h with
  | operand name => rfl
  | @group inner tree _ ih =>
      rw [operandsOf_append]
      show operandsOf inner ++ [] = tree.names
      rw [List.append_nil, ih]
  | product _ ih => exact ih
  | sum _ ih => exact ih
  | @binary op left right lhs rhs _ _ ihLeft ihRight =>
      rw [operandsOf_append]
      show operandsOf left ++ operandsOf right = lhs.names ++ rhs.names
      rw [ihLeft, ihRight]

/-- The operands of the post-order listing are those of the tree. -/
theorem operands_postOrder (tree : Expr) :
    (Postfix.mk tree.postOrder).operands = tree.names := by
  induction tree with
  | operand name => rfl
  | binary op lhs rhs ihLeft ihRight =>
      simp only [Postfix.operands] at ihLeft ihRight ⊢
      simp [postOrder, names, ihLeft, ihRight]

end Expr

/-! ## The shape of a sentence -/

/-- Whether the lexeme stands where an operand is due. -/
def Lexeme.opensOperand : Lexeme → Bool
  | operand _ => true
  | openParen => true
  | operator _ => false
  | closeParen => false

/-- Whether an operand is due after the lexeme. -/
def Lexeme.demandsOperand : Lexeme → Bool
  | operand _ => false
  | openParen => true
  | operator _ => true
  | closeParen => false

/-- Whether every lexeme stands where it may, `due` saying whether an operand is
due at the start; none may be due at the end. -/
def alternates (due : Bool) : List Lexeme → Bool
  | [] => !due
  | lexeme :: rest =>
      lexeme.opensOperand == due && alternates lexeme.demandsOperand rest

/-- Whether the parentheses match, `depth` of them being open at the start. -/
def balances (depth : Nat) : List Lexeme → Bool
  | [] => depth == 0
  | .openParen :: rest => balances (depth + 1) rest
  | .closeParen :: rest => depth != 0 && balances (depth - 1) rest
  | .operand _ :: rest => balances depth rest
  | .operator _ :: rest => balances depth rest

namespace Expr

theorem Derives.alternates_append {level : Level} {lexemes : List Lexeme}
    {tree : Expr} (h : Derives level lexemes tree) (rest : List Lexeme) :
    alternates true (lexemes ++ rest) = alternates false rest := by
  induction h generalizing rest with
  | operand name => rfl
  | group _ ih =>
      rw [List.append_assoc, List.cons_append]
      exact ih _
  | product _ ih => exact ih rest
  | sum _ ih => exact ih rest
  | binary op _ _ ihLeft ihRight =>
      rw [List.append_assoc, ihLeft]
      exact ihRight rest

theorem Derives.balances_append {level : Level} {lexemes : List Lexeme}
    {tree : Expr} (h : Derives level lexemes tree) (depth : Nat)
    (rest : List Lexeme) :
    balances depth (lexemes ++ rest) = balances depth rest := by
  induction h generalizing depth rest with
  | operand name => rfl
  | group _ ih =>
      rw [List.append_assoc, List.cons_append, balances, ih]
      rfl
  | product _ ih => exact ih depth rest
  | sum _ ih => exact ih depth rest
  | binary op _ _ ihLeft ihRight =>
      rw [List.append_assoc, ihLeft]
      exact ihRight depth rest

theorem Derives.alternates {level : Level} {lexemes : List Lexeme}
    {tree : Expr} (h : Derives level lexemes tree) :
    alternates true lexemes = true := by
  have happend := h.alternates_append []
  rwa [List.append_nil] at happend

theorem Derives.balances {level : Level} {lexemes : List Lexeme}
    {tree : Expr} (h : Derives level lexemes tree) :
    balances 0 lexemes = true := by
  have happend := h.balances_append 0 []
  rwa [List.append_nil] at happend

end Expr

end CounterTables.Formula
