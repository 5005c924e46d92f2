import CounterTables.Formula.Expr

/-!
# The stack machine on post-order listings

Run on the post-order listing of a tree, the machine does what the recursion on
the tree does: it leaves one value on top of those it found and remembers the
divisions by zero, or it stops at the leftmost operand without a value. The law
`run_postOrder` is stated for any items behind the listing, so that it applies
to the two operands of an operator in turn.

The same law for the arithmetic whose numbers are the trees themselves reads a
tree back from its listing, which is therefore unique.

## Main results

* `Machine.run_postOrder` — one run over a listing.
* `evaluateItems_postOrder` — the value of a listing is that of its tree.
* `Expr.evaluate_of_known`, `Expr.evaluate_of_unknown` — the two outcomes.
* `Expr.postOrder_injective` — a listing belongs to one tree only.
-/

namespace CounterTables.Formula

variable {α : Type}

/-! ## Values of trees -/

namespace Expr

/-- The leftmost operand without a value. -/
def firstUnknown (numbers : Arithmetic α) (lookup : String → Option α)
    (tree : Expr) : Option String :=
  tree.names.find? fun name => (numbers.resolve lookup name).isNone

/-- The value of every operand that has one. -/
def resolved (numbers : Arithmetic α) (lookup : String → Option α)
    (name : String) : α :=
  (numbers.resolve lookup name).getD numbers.zero

theorem firstUnknown_binary (numbers : Arithmetic α)
    (lookup : String → Option α) (op : Operator) (lhs rhs : Expr) :
    (binary op lhs rhs).firstUnknown numbers lookup =
      (lhs.firstUnknown numbers lookup).or
        (rhs.firstUnknown numbers lookup) :=
  List.find?_append

/-- The value of a tree depends on the values of its own operands only. -/
theorem value_congr (numbers : Arithmetic α) {known other : String → α}
    (tree : Expr) (h : ∀ name ∈ tree.names, known name = other name) :
    tree.value numbers known = tree.value numbers other := by
  induction tree with
  | operand name => simp [value, h name (by simp [names])]
  | binary op lhs rhs ihLeft ihRight =>
      have hLeft := ihLeft fun name hmem =>
        h name (List.mem_append_left _ hmem)
      have hRight := ihRight fun name hmem =>
        h name (List.mem_append_right _ hmem)
      simp only [value, hLeft, hRight]

end Expr

/-! ## One run over a listing -/

namespace Machine

/-- Over the listing of a tree the machine stops at the leftmost operand without
a value, or goes on with the value of the tree. -/
theorem run_postOrder (numbers : Arithmetic α) (lookup : String → Option α)
    (tree : Expr) (machine : Machine α) (rest : List Item) :
    machine.run numbers lookup (tree.postOrder ++ rest) =
      match tree.firstUnknown numbers lookup with
      | some name => .error (.unknownOperand name)
      | none =>
          let (value, byZero) :=
            tree.value numbers (Expr.resolved numbers lookup)
          Machine.run numbers lookup
            ⟨value :: machine.stack, machine.dividedByZero || byZero⟩ rest := by
  induction tree generalizing machine rest with
  | operand name =>
      cases hname : numbers.resolve lookup name with
      | none =>
          simp [Expr.postOrder, Expr.firstUnknown, Expr.names, run, step, hname]
      | some value =>
          simp [Expr.postOrder, Expr.firstUnknown, Expr.names, Expr.value,
            Expr.resolved, run, step, hname]
  | binary op lhs rhs ihLeft ihRight =>
      have hsplit : (Expr.binary op lhs rhs).postOrder ++ rest =
          lhs.postOrder ++ (rhs.postOrder ++ (.operator op :: rest)) := by
        simp [Expr.postOrder]
      rw [hsplit, ihLeft, Expr.firstUnknown_binary]
      cases lhs.firstUnknown numbers lookup with
      | some name => rfl
      | none =>
          simp only [Option.none_or]
          rw [ihRight]
          cases rhs.firstUnknown numbers lookup with
          | some name => rfl
          | none => simp [run, step, Expr.value, Bool.or_assoc]

end Machine

/-- The value of a listing is that of its tree. -/
theorem evaluateItems_postOrder (numbers : Arithmetic α)
    (lookup : String → Option α) (tree : Expr) :
    evaluateItems numbers lookup tree.postOrder =
      tree.evaluate numbers lookup := by
  have hrun := Machine.run_postOrder numbers lookup tree .start []
  rw [List.append_nil] at hrun
  rw [evaluateItems, hrun, Expr.evaluate]
  show _ = match tree.firstUnknown numbers lookup with
    | some name => Except.error (EvalError.unknownOperand name)
    | none => _
  cases tree.firstUnknown numbers lookup with
  | some name => rfl
  | none =>
      simp only [Machine.run, Machine.result, Machine.start, Bool.false_or]
      rfl

/-! ## The two outcomes -/

namespace Expr

/-- Where every operand has a value, so has the formula. -/
theorem evaluate_of_known (numbers : Arithmetic α)
    (lookup : String → Option α) (tree : Expr) (known : String → α)
    (h : ∀ name ∈ tree.names,
      numbers.resolve lookup name = some (known name)) :
    tree.evaluate numbers lookup =
      .ok (if (tree.value numbers known).2 then numbers.zero
        else (tree.value numbers known).1) := by
  have hnone : tree.firstUnknown numbers lookup = none := by
    rw [firstUnknown, List.find?_eq_none]
    intro name hmem
    simp [h name hmem]
  have hvalue : tree.value numbers (resolved numbers lookup) =
      tree.value numbers known := by
    apply value_congr
    intro name hmem
    simp [resolved, h name hmem]
  rw [firstUnknown] at hnone
  rw [evaluate, hnone, ← hvalue]
  rfl

/-- The first operand without a value is the one reported. -/
theorem evaluate_of_unknown (numbers : Arithmetic α)
    (lookup : String → Option α) (tree : Expr) {before after : List String}
    {name : String} (hnames : tree.names = before ++ name :: after)
    (hbefore : ∀ other ∈ before, (numbers.resolve lookup other).isSome)
    (hname : numbers.resolve lookup name = none) :
    tree.evaluate numbers lookup = .error (.unknownOperand name) := by
  have hfirst : before.find?
      (fun other => (numbers.resolve lookup other).isNone) = none := by
    rw [List.find?_eq_none]
    intro other hmem
    have hsome := hbefore other hmem
    simpa using Option.isSome_iff_ne_none.1 hsome
  have hsome : tree.names.find?
      (fun other => (numbers.resolve lookup other).isNone) = some name := by
    rw [hnames, List.find?_append, hfirst]
    simp [hname]
  rw [evaluate, hsome]

/-! ## Reading a tree back -/

/-- The arithmetic that builds trees. -/
def trees : Arithmetic Expr where
  apply := binary
  zero := operand ""
  isZero := fun _ => false
  literal? := fun _ => none

theorem perform_trees (op : Operator) (lhs rhs : Expr) :
    trees.perform op lhs rhs = (binary op lhs rhs, false) := by
  simp [Arithmetic.perform, trees]

theorem value_trees (tree : Expr) : tree.value trees operand = (tree, false) := by
  induction tree with
  | operand name => rfl
  | binary op lhs rhs ihLeft ihRight =>
      simp [value, ihLeft, ihRight, perform_trees]

theorem evaluate_trees (tree : Expr) :
    tree.evaluate trees (fun name => some (operand name)) = .ok tree := by
  rw [tree.evaluate_of_known trees _ operand fun _ _ => rfl, value_trees]
  rfl

/-- A listing belongs to one tree only. -/
theorem postOrder_injective {tree other : Expr}
    (h : tree.postOrder = other.postOrder) : tree = other := by
  have htree := evaluateItems_postOrder trees (fun name => some (operand name)) tree
  have hother := evaluateItems_postOrder trees (fun name => some (operand name)) other
  rw [evaluate_trees] at htree hother
  rw [h] at htree
  exact Except.ok.inj (htree.symm.trans hother)

end Expr

end CounterTables.Formula
