import Mathlib
import CounterTables.Proofs.Formula.CompiledText

/-!
# Texts that have a value

Any text can be given to the evaluator, not only one that was compiled. Its
words are items, and a sequence of items is either cut into the listings of some
trees, or has an operator with fewer than two of them before it; in both cases
the machine can be followed. It leaves the values of the trees on the stack, so
it ends well just if there is one tree, and what it reports otherwise says how
many there are.

An operator that lacks an operand is found where it stands: no later item makes
up for it.

## Main results

* `exists_listings` — items are listings, up to an operator without operands.
* `Machine.run_listings` — the machine leaves the values of the trees.
* `Misfit.evaluateItems_eq` — what is reported of items that list no tree.
* `evaluateText_listing` — a text has a value just if it lists a tree.
-/

namespace CounterTables.Formula

open CounterTables.Text (IsWords isWords_iff)

variable {α : Type}

/-! ## Words -/

/-- What a word stands for: one character may be an operator, and all other
words are operands. -/
inductive Word : List Char → Item → Prop
  | operator (op : Operator) : Word [op.symbol] (.operator op)
  | operand {word : List Char} :
      (∀ op : Operator, word ≠ [op.symbol]) → Word word (.operand (String.ofList word))

theorem word_iff {word : List Char} {item : Item} :
    Word word item ↔ Item.ofWord word = item := by
  constructor
  · intro h
    cases h with
    | operator op => cases op <;> rfl
    | operand hother =>
        unfold Item.ofWord
        split
        · rename_i c
          cases hop : Operator.ofChar? c with
          | none => rfl
          | some op =>
              rw [Operator.ofChar?_eq_some_iff.1 hop] at hother
              exact absurd rfl (hother op)
        · rfl
  · rintro rfl
    unfold Item.ofWord
    split
    · rename_i c
      cases hop : Operator.ofChar? c with
      | none =>
          refine .operand fun op heq => ?_
          rw [List.singleton_inj.1 heq, Operator.ofChar?_symbol] at hop
          cases hop
      | some op =>
          rw [Operator.ofChar?_eq_some_iff.1 hop]
          exact .operator op
    · rename_i hlong
      exact .operand fun op => hlong op.symbol

/-- The words of the text, in lower case, stand for the items. -/
def Reads (text : String) (items : List Item) : Prop :=
  ∃ parts, IsWords (text.toList.map Char.toLower) parts ∧ List.Forall₂ Word parts items

theorem reads_iff {text : String} {items : List Item} :
    Reads text items ↔ readItems text = items := by
  have hword : Word = fun word item => Item.ofWord word = item := by
    funext word item
    exact propext word_iff
  simp only [Reads, isWords_iff, exists_eq_left', hword]
  rw [readItems, ← List.forall₂_map_left_iff, List.forall₂_eq_eq_eq]

/-! ## Listings -/

/-- The listings of trees, one after the other. -/
def listings (forest : List Expr) : List Item :=
  forest.flatMap Expr.postOrder

theorem listings_append (forest trees : List Expr) :
    listings (forest ++ trees) = listings forest ++ listings trees :=
  List.flatMap_append

/-- What keeps items from being the listing of one tree. -/
inductive Misfit : List Item → Malformed → Prop
  | noOperands : Misfit [] .noOperands
  /-- Fewer than two trees are listed before an operator. -/
  | missingOperand {forest : List Expr} {op : Operator} (rest : List Item) :
      forest.length < 2 →
      Misfit (listings forest ++ .operator op :: rest) (.missingOperand op)
  | operandsLeft {forest : List Expr} :
      2 ≤ forest.length → Misfit (listings forest) (.operandsLeft forest.length)

/-- Items are listings of trees, up to an operator that lacks an operand. -/
theorem exists_listings (items : List Item) :
    (∃ forest, items = listings forest) ∨
    ∃ forest op rest, forest.length < 2 ∧
      items = listings forest ++ .operator op :: rest := by
  induction items using List.reverseRecOn with
  | nil => exact .inl ⟨[], rfl⟩
  | append_singleton items item ih =>
      rcases ih with ⟨forest, rfl⟩ | ⟨forest, op, rest, hfew, rfl⟩
      · cases item with
        | operand name =>
            refine .inl ⟨forest ++ [.operand name], ?_⟩
            rw [listings_append]
            rfl
        | operator op =>
            rcases List.eq_nil_or_concat forest with rfl | ⟨front, rhs, rfl⟩
            · exact .inr ⟨[], op, [], Nat.zero_lt_two, rfl⟩
            rcases List.eq_nil_or_concat front with rfl | ⟨front, lhs, rfl⟩
            · exact .inr ⟨[rhs], op, [], Nat.one_lt_two, rfl⟩
            · -- the last two trees become one
              refine .inl ⟨front ++ [.binary op lhs rhs], ?_⟩
              simp [listings, Expr.postOrder]
      · exact .inr ⟨forest, op, rest ++ [item], hfew, by simp⟩

/-- Items that list no tree are a misfit. -/
theorem tree_or_misfit (items : List Item) :
    (∃ tree : Expr, items = tree.postOrder) ∨ ∃ fault, Misfit items fault := by
  rcases exists_listings items with ⟨forest, rfl⟩ | ⟨forest, op, rest, hfew, rfl⟩
  · rcases forest with _ | ⟨tree, _ | ⟨second, forest⟩⟩
    · exact .inr ⟨_, .noOperands⟩
    · exact .inl ⟨tree, List.append_nil _⟩
    · exact .inr ⟨_, .operandsLeft (by simp)⟩
  · exact .inr ⟨_, .missingOperand rest hfew⟩

/-! ## The machine on listings -/

section Known

variable (numbers : Arithmetic α) (known : String → α)

/-- Where all names are known, the machine replaces a listing by the value. -/
theorem Machine.run_listing (tree : Expr) (machine : Machine α) (rest : List Item) :
    machine.run numbers (fun name => some (known name)) (tree.postOrder ++ rest) =
      Machine.run numbers (fun name => some (known name))
        ⟨tree.result numbers known :: machine.stack,
          machine.dividedByZero || tree.dividesByZero numbers known⟩ rest := by
  have hnone : tree.firstUnknown numbers (fun name => some (known name)) = none := by
    rw [Expr.firstUnknown, List.find?_eq_none]
    exact fun _ _ => Bool.false_ne_true
  rw [Machine.run_postOrder, hnone]
  have hvalue : tree.value numbers (Expr.resolved numbers fun name =>
      some (known name)) = _ :=
    tree.value_eq numbers known
  simp only [hvalue]

theorem Machine.run_listings (forest : List Expr) (machine : Machine α)
    (rest : List Item) :
    machine.run numbers (fun name => some (known name)) (listings forest ++ rest) =
      Machine.run numbers (fun name => some (known name))
        ⟨(forest.map (Expr.result numbers known)).reverse ++ machine.stack,
          machine.dividedByZero ||
            forest.any (Expr.dividesByZero numbers known)⟩ rest := by
  induction forest generalizing machine with
  | nil => simp [listings]
  | cons tree forest ih =>
      have hsplit : listings (tree :: forest) ++ rest =
          tree.postOrder ++ (listings forest ++ rest) := by
        simp [listings]
      rw [hsplit, Machine.run_listing, ih]
      simp [Bool.or_assoc]

theorem evaluateItems_postOrder_known (tree : Expr) :
    evaluateItems numbers (fun name => some (known name)) tree.postOrder =
      .ok (if tree.dividesByZero numbers known then numbers.zero
        else tree.result numbers known) := by
  rw [evaluateItems_postOrder, tree.evaluate_of_known numbers _ known fun _ _ => rfl,
    tree.value_eq]

theorem Machine.result_of_two_le {machine : Machine α} (h : 2 ≤ machine.stack.length) :
    machine.result numbers =
      .error (.malformed (.operandsLeft machine.stack.length)) := by
  obtain ⟨stack, dividedByZero⟩ := machine
  rcases stack with _ | ⟨value, _ | ⟨second, stack⟩⟩
  · cases h
  · exact absurd h (by simp)
  · rfl

/-- What is reported of items that list no tree. -/
theorem Misfit.evaluateItems_eq {items : List Item} {fault : Malformed}
    (h : Misfit items fault) :
    evaluateItems numbers (fun name => some (known name)) items =
      .error (.malformed fault) := by
  cases h with
  | noOperands => rfl
  | @missingOperand forest op rest hfew =>
      rw [evaluateItems, Machine.run_listings]
      rcases forest with _ | ⟨tree, _ | ⟨second, forest⟩⟩
      · rfl
      · rfl
      · exact absurd hfew (by simp)
  | @operandsLeft forest hmany =>
      have hrun := Machine.run_listings numbers known forest .start []
      rw [List.append_nil] at hrun
      rw [evaluateItems, hrun]
      have hlength : ((forest.map (Expr.result numbers known)).reverse ++
          (Machine.start : Machine α).stack).length = forest.length := by
        simp [Machine.start]
      exact (Machine.result_of_two_le numbers (hlength ▸ hmany)).trans (by rw [hlength])

end Known

/-! ## Texts -/

/-- The words of the text are the listing of the tree. -/
def Lists (text : String) (tree : Expr) : Prop :=
  Reads text tree.postOrder

theorem Lists.unique {text : String} {tree other : Expr} (htree : Lists text tree)
    (hother : Lists text other) : tree = other :=
  Expr.postOrder_injective ((reads_iff.1 htree).symm.trans (reads_iff.1 hother))

/-- **A text has a value just if it lists a tree.** Where every name has a
value, a text whose words are the listing of a tree, which is then the only one,
has the value of this tree, or zero if some division in it has a zero divisor.
No other text has a value: its words are malformed, and in the way reported. -/
theorem evaluateText_listing (numbers : Arithmetic α) (known : String → α)
    (text : String) :
    ((∃ value, evaluateText numbers (fun name => some (known name)) text = .ok value) ↔
      ∃ tree, Lists text tree) ∧
    (∀ tree, Lists text tree →
      evaluateText numbers (fun name => some (known name)) text =
          .ok (if tree.dividesByZero numbers known then numbers.zero
            else tree.result numbers known) ∧
        ∀ other, Lists text other → other = tree) ∧
    ((¬ ∃ tree, Lists text tree) →
      ∃ items fault, Reads text items ∧ Misfit items fault ∧
        evaluateText numbers (fun name => some (known name)) text =
          .error (.malformed fault)) := by
  have hvalue : ∀ tree, Lists text tree →
      evaluateText numbers (fun name => some (known name)) text =
        .ok (if tree.dividesByZero numbers known then numbers.zero
          else tree.result numbers known) := by
    intro tree htree
    rw [evaluateText, reads_iff.1 htree, evaluateItems_postOrder_known]
  have hfault : (¬ ∃ tree, Lists text tree) →
      ∃ items fault, Reads text items ∧ Misfit items fault ∧
        evaluateText numbers (fun name => some (known name)) text =
          .error (.malformed fault) := by
    intro hnone
    rcases tree_or_misfit (readItems text) with ⟨tree, htree⟩ | ⟨fault, hmisfit⟩
    · exact absurd ⟨tree, reads_iff.2 htree⟩ hnone
    · exact ⟨readItems text, fault, reads_iff.2 rfl, hmisfit,
        hmisfit.evaluateItems_eq numbers known⟩
  refine ⟨⟨?_, ?_⟩, ?_, hfault⟩
  · rintro ⟨value, hok⟩
    by_contra hnone
    obtain ⟨items, fault, -, -, herror⟩ := hfault hnone
    rw [hok] at herror
    cases herror
  · rintro ⟨tree, htree⟩
    exact ⟨_, hvalue tree htree⟩
  · exact fun tree htree => ⟨hvalue tree htree, fun other hother => hother.unique htree⟩

/-- What follows does not make up for the operand that is missing. -/
example : evaluateText integers (fun _ => some 1) "a + b C -" =
    .error (.malformed (.missingOperand .add)) := by cbv

end CounterTables.Formula
