import CounterTables.Proofs.Formula.Sentences

/-!
# The value of a compiled formula

The value is described on the expression tree, with the division rule apart from
the recursion: `result` gives a division by zero the value zero, and
`dividesByZero` looks at the divisors of the tree. The pair that `Expr.value`
computes is exactly these two.

Nothing is assumed of the numbers: the operations, the test for zero and the
reading of literals are those of any `Arithmetic`.

## Main results

* `Expr.value_eq` — the recursion computes the result and looks at every
  divisor.
* `evaluate_compiled` — a compiled formula evaluates as its tree does, and never
  runs out of operands or leaves some over.
-/

namespace CounterTables.Formula

open CounterTables.Formula.Expr (Derives)

variable {α : Type}

namespace Expr

/-- The value of a tree in which a division by zero has the value zero. -/
def result (numbers : Arithmetic α) (known : String → α) : Expr → α
  | operand name => known name
  | binary op lhs rhs =>
      if op = .div ∧ numbers.isZero (rhs.result numbers known) = true then
        numbers.zero
      else numbers.apply op (lhs.result numbers known) (rhs.result numbers known)

/-- The right operands of all divisions in a tree. -/
def divisors : Expr → List Expr
  | operand _ => []
  | binary .div lhs rhs => lhs.divisors ++ rhs.divisors ++ [rhs]
  | binary _ lhs rhs => lhs.divisors ++ rhs.divisors

/-- Whether some division in the tree has a divisor that counts as zero. -/
def dividesByZero (numbers : Arithmetic α) (known : String → α)
    (tree : Expr) : Bool :=
  tree.divisors.any fun divisor => numbers.isZero (divisor.result numbers known)

theorem value_eq (numbers : Arithmetic α) (known : String → α) (tree : Expr) :
    tree.value numbers known =
      (tree.result numbers known, tree.dividesByZero numbers known) := by
  induction tree with
  | operand name => rfl
  | binary op lhs rhs ihLeft ihRight =>
      simp only [value, ihLeft, ihRight]
      cases op
      case div =>
        cases hzero : numbers.isZero (rhs.result numbers known) <;>
          simp [Arithmetic.perform, result, dividesByZero, divisors, hzero,
            List.any_append]
      all_goals
        simp [Arithmetic.perform, result, dividesByZero, divisors,
          List.any_append]

theorem evaluate_ne_malformed (numbers : Arithmetic α)
    (lookup : String → Option α) (tree : Expr) (fault : Malformed) :
    tree.evaluate numbers lookup ≠ .error (.malformed fault) := by
  rw [evaluate]
  split <;> simp

end Expr

/-- **A compiled formula evaluates as its tree does.** For every arithmetic and
every lookup, the machine neither lacks an operand nor leaves one over. Where
all operands have a value, the value is zero if some division in the tree has a
zero divisor, and otherwise that of the tree; where some operand has none, the
first one of the source is reported. -/
theorem evaluate_compiled {source : String} {formula : Postfix}
    (h : compile source = .ok formula) (numbers : Arithmetic α)
    (lookup : String → Option α) :
    ∃ tokens tree, tokenize source = .ok tokens ∧
      Derives .sum (tokens.map Token.lexeme) tree ∧
      (∀ fault, evaluate numbers lookup formula ≠ .error (.malformed fault)) ∧
      (∀ known : String → α,
        (∀ name ∈ tree.names,
          numbers.resolve lookup name = some (known name)) →
        evaluate numbers lookup formula =
          .ok (if tree.dividesByZero numbers known then numbers.zero
            else tree.result numbers known)) ∧
      (∀ before name after,
        operandsOf (tokens.map Token.lexeme) = before ++ name :: after →
        (∀ other ∈ before, (numbers.resolve lookup other).isSome) →
        numbers.resolve lookup name = none →
        evaluate numbers lookup formula = .error (.unknownOperand name)) := by
  obtain ⟨tokens, tree, htokens, hderives, hitems⟩ := compile_eq_ok_iff.1 h
  have heval : evaluate numbers lookup formula =
      tree.evaluate numbers lookup := by
    rw [evaluate, hitems, evaluateItems_postOrder]
  refine ⟨tokens, tree, htokens, hderives, ?_, ?_, ?_⟩
  · intro fault
    rw [heval]
    exact tree.evaluate_ne_malformed numbers lookup fault
  · intro known hknown
    rw [heval, tree.evaluate_of_known numbers lookup known hknown,
      tree.value_eq]
  · intro before name after hsplit hbefore hname
    rw [hderives.operands_eq] at hsplit
    rw [heval]
    exact tree.evaluate_of_unknown numbers lookup hsplit hbefore hname

/-- Whole numbers with truncating division. -/
def integers : Arithmetic Int where
  apply
    | .add => (· + ·)
    | .sub => (· - ·)
    | .mul => (· * ·)
    | .div => Int.tdiv
  zero := 0
  isZero := fun n => n == 0
  literal? := fun _ => none

/-- A formula whose only divisor is a difference of equals. -/
theorem evaluate_compiled_zero_divisor :
    ∃ formula, compile "A/(b-b)+c" = .ok formula ∧
      ∀ fault, evaluate integers (fun _ => some 3) formula ≠
        .error (.malformed fault) := by
  have hcompile : compile "A/(b-b)+c" = .ok
      ⟨[.operand "a", .operand "b", .operand "b", .operator .sub,
        .operator .div, .operand "c", .operator .add]⟩ := by cbv
  obtain ⟨_, _, _, _, hfault, _, _⟩ :=
    evaluate_compiled hcompile integers fun _ => some 3
  exact ⟨_, hcompile, hfault⟩

end CounterTables.Formula
