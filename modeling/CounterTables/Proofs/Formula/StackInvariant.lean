import Mathlib
import CounterTables.Proofs.Formula.Listings
import CounterTables.Proofs.Formula.Nesting

/-!
# What the stack holds between two tokens

Three things hold whenever the compiler has taken some tokens. Between two
parentheses on the stack, and below the first and above the last, operators bind
ever tighter from the bottom up. The output never lacks an operand, and leaves
one value for each operator on the stack, the left operand of that operator, and
one more if no operand is due. And the parentheses on the stack are just those
that have no partner among the tokens.

All three are read off `Reached`, which every step keeps: what has been read is
made of left operands with their operators, of open parentheses, and of a last
phrase if no operand is due.

## Main results

* `Awaits.ascending`, `Awaits.exists_listings` — the order of the operators, and
  the output as listings of trees.
* `Opens.unmatched` — the open parentheses are those without a partner.
* `consistent_between_tokens` — all three, between any two tokens.
-/

namespace CounterTables.Formula

open CounterTables.Formula.Expr (Level Derives)

/-! ## Parentheses without a partner -/

/-- The offsets of the open parentheses without a partner, in order. -/
inductive Unmatched : List Token → List Nat → Prop
  | done : Unmatched [] []
  | unmatched {token : Token} {after : List Token} {positions : List Nat} :
      token.lexeme = .openParen → ¬ IsClosed (after.map Token.lexeme) →
      Unmatched after positions → Unmatched (token :: after)
        (token.position :: positions)
  | other {token : Token} {after : List Token} {positions : List Nat} :
      (token.lexeme = .openParen → IsClosed (after.map Token.lexeme)) →
      Unmatched after positions → Unmatched (token :: after) positions

/-- No partner is found behind a parenthesis that stays open. -/
theorem isClosed_append_openParen_iff {front after : List Lexeme}
    (hafter : balances 0 after = true) :
    IsClosed (front ++ .openParen :: after) ↔ IsClosed front := by
  constructor
  · rintro ⟨inside, rest, hsplit, hinside⟩
    rcases List.append_eq_append_iff.1 hsplit with
      ⟨more, rfl, hmore⟩ | ⟨more, rfl, hmore⟩
    · rcases more with _ | ⟨lexeme, more⟩
      · cases hmore
      · -- the partner would be behind the parenthesis, which then had one as well
        obtain ⟨rfl, rfl⟩ := List.cons.inj hmore
        obtain ⟨inner, last, rfl, hinner⟩ := isClosed_of_balances hinside
        refine absurd ⟨inner, last ++ .closeParen :: rest, ?_, hinner⟩
          (not_isClosed_of_balances hafter)
        simp
    · rcases more with _ | ⟨lexeme, more⟩
      · cases hmore
      · obtain ⟨rfl, -⟩ := List.cons.inj hmore
        exact ⟨inside, more, rfl, hinside⟩
  · rintro ⟨inside, rest, rfl, hinside⟩
    exact ⟨inside, rest ++ .openParen :: after, by simp, hinside⟩

namespace Unmatched

theorem of_balances {depth : Nat} {tokens : List Token}
    (h : balances depth (tokens.map Token.lexeme) = true) : Unmatched tokens [] := by
  induction tokens generalizing depth with
  | nil => exact .done
  | cons token after ih =>
      have hafter :
          balances depth ([token.lexeme] ++ after.map Token.lexeme) = true := h
      obtain ⟨later, hlater⟩ := balances_suffix hafter
      refine .other (fun htoken => ?_) (ih hlater)
      rw [List.map_cons, htoken] at h
      have hopen :
          balances depth ([] ++ .openParen :: after.map Token.lexeme) = true := h
      exact isClosed_of_balances hopen

/-- One more parenthesis that stays open comes after those before it. -/
theorem append {before after : List Token} {token : Token} {positions : List Nat}
    (h : Unmatched before positions) (htoken : token.lexeme = .openParen)
    (hafter : balances 0 (after.map Token.lexeme) = true) :
    Unmatched (before ++ token :: after) (positions ++ [token.position]) := by
  have hclosed : ∀ front : List Token,
      IsClosed ((front ++ token :: after).map Token.lexeme) ↔
        IsClosed (front.map Token.lexeme) := by
    intro front
    rw [List.map_append, List.map_cons, htoken]
    exact isClosed_append_openParen_iff hafter
  induction h with
  | done =>
      exact .unmatched htoken (not_isClosed_of_balances hafter) (of_balances hafter)
  | @unmatched first front positions hfirst hopen _ ih =>
      exact .unmatched hfirst (mt (hclosed front).1 hopen) ih
  | @other first front positions hother _ ih =>
      exact .other (fun hfirst => (hclosed front).2 (hother hfirst)) ih

end Unmatched

/-- The parentheses that are open are those without a partner. -/
theorem Opens.unmatched {tokens : List Token} {positions : List Nat}
    (h : Opens tokens positions) : Unmatched tokens positions.reverse := by
  induction h with
  | none hbalances => exact .of_balances hbalances
  | latest _ htoken hafter ih =>
      rw [List.reverse_cons]
      exact ih.append htoken hafter

namespace Compiler

/-! ## Operators on the stack -/

/-- Any operators that lie on the stack with no parenthesis between them bind
ever tighter from the bottom up. -/
def Ascending (stack : List Pending) : Prop :=
  ∀ (above : List Pending) (ops : List Operator) (below : List Pending),
    stack = above ++ ops.map Pending.operator ++ below →
    ops.Pairwise fun upper lower => lower.precedence < upper.precedence

/-- The operators on the stack, the topmost first. -/
def operators : List Pending → List Operator
  | [] => []
  | .operator op :: rest => op :: operators rest
  | .openParen _ :: rest => operators rest

theorem ascending_nil : Ascending [] := by
  intro above ops below hsplit
  simp only [List.nil_eq, List.append_eq_nil_iff, List.map_eq_nil_iff] at hsplit
  obtain ⟨⟨-, rfl⟩, -⟩ := hsplit
  exact .nil

theorem Ascending.openParen {stack : List Pending} (h : Ascending stack)
    (position : Nat) :
    Ascending (.openParen position :: stack) := by
  intro above ops below hsplit
  rcases above with _ | ⟨top, above⟩
  · rcases ops with _ | ⟨op, ops⟩
    · exact .nil
    · cases hsplit
  · exact h above ops below (List.cons.inj hsplit).2

/-- An operator comes to lie on one that binds weaker. -/
theorem Ascending.operator {stack : List Pending} {op : Operator} (h : Ascending stack)
    (hfits : Fits (Level.ofOperator op) stack) : Ascending (.operator op :: stack) := by
  intro above ops below hsplit
  rcases above with _ | ⟨top, above⟩
  · rcases ops with _ | ⟨first, ops⟩
    · exact .nil
    · obtain ⟨hfirst, rfl⟩ := List.cons.inj hsplit
      obtain rfl := Pending.operator.inj hfirst
      have hops := h [] ops below rfl
      refine .cons (fun other hother => ?_) hops
      rcases ops with _ | ⟨next, more⟩
      · cases hother
      · have hnext : next.precedence < op.precedence := by
          simpa [Fits] using hfits
        rcases List.mem_cons.1 hother with rfl | hother
        · exact hnext
        · exact Nat.lt_trans (List.rel_of_pairwise_cons hops hother) hnext
  · exact h above ops below (List.cons.inj hsplit).2

theorem Awaits.ascending {read : List Token} {stack : List Pending} {output : List Item}
    (h : Awaits read stack output) : Ascending stack := by
  induction h with
  | start => exact ascending_nil
  | group _ _ ih => exact ih.openParen _
  | operator _ hfits _ _ ih => exact ih.operator hfits

theorem Holds.ascending {level : Level} {read : List Token} {stack : List Pending}
    {output : List Item} (h : Holds level read stack output) : Ascending stack := by
  obtain ⟨hawaits, -, -⟩ := h
  exact hawaits.ascending

/-! ## Values of the output -/

/-- The machine runs over the items without lacking an operand, and leaves so
many values. -/
def LeavesValues (items : List Item) (count : Nat) : Prop :=
  ∀ {α : Type} (numbers : Arithmetic α) (known : String → α),
    ∃ machine, Machine.start.run numbers (fun name => some (known name)) items =
      .ok machine ∧ machine.stack.length = count

theorem leavesValues_listings (forest : List Expr) :
    LeavesValues (listings forest) forest.length := by
  intro α numbers known
  have hrun := Machine.run_listings numbers known forest .start []
  rw [List.append_nil] at hrun
  exact ⟨_, hrun, by simp [Machine.start]⟩

/-- A tree that is written behind others is listed last. -/
theorem reverse_eq_listings_concat {output : List Item} {forest : List Expr}
    (h : output.reverse = listings forest) (tree : Expr) :
    (tree.postOrder.reverse ++ output).reverse = listings (forest ++ [tree]) := by
  rw [List.reverse_append, h, listings_append, List.reverse_reverse]
  simp [listings]

/-- The output lists the left operand of each operator on the stack. -/
theorem Awaits.exists_listings {read : List Token} {stack : List Pending}
    {output : List Item} (h : Awaits read stack output) :
    ∃ forest, output.reverse = listings forest ∧
      forest.length = (operators stack).length := by
  induction h with
  | start => exact ⟨[], rfl, rfl⟩
  | group _ _ ih => exact ih
  | @operator read left stack output token op lhs _ _ _ _ ih =>
      obtain ⟨forest, houtput, hlength⟩ := ih
      refine ⟨forest ++ [lhs], reverse_eq_listings_concat houtput lhs, ?_⟩
      rw [List.length_append, hlength]
      rfl

/-- The last phrase is one value more. -/
theorem Holds.exists_listings {level : Level} {read : List Token} {stack : List Pending}
    {output : List Item} (h : Holds level read stack output) :
    ∃ forest, output.reverse = listings forest ∧
      forest.length = (operators stack).length + 1 := by
  obtain @⟨_, _, _, _, tree, hawaits, -, -⟩ := h
  obtain ⟨forest, houtput, hlength⟩ := hawaits.exists_listings
  refine ⟨forest ++ [tree], reverse_eq_listings_concat houtput tree, ?_⟩
  rw [List.length_append, hlength]
  rfl

/-! ## The invariant -/

/-- What holds of the state after the tokens that were read. -/
structure Consistent (read : List Token) (state : Compiler) : Prop where
  ascending : Ascending state.stack
  values : LeavesValues state.output.reverse
    ((operators state.stack).length + if state.operandDue then 0 else 1)
  unmatched : Unmatched read (openings state.stack).reverse

theorem Reached.consistent {read : List Token} {state : Compiler}
    (h : Reached read state) : Consistent read state := by
  have hunmatched := h.opens.unmatched
  cases hdue : state.operandDue with
  | true =>
      have hawaits := reached_due h hdue
      obtain ⟨forest, houtput, hlength⟩ := hawaits.exists_listings
      refine ⟨hawaits.ascending, ?_, hunmatched⟩
      rw [houtput, hdue, ← hlength]
      exact leavesValues_listings forest
  | false =>
      have hholds := reached_not_due h hdue
      refine ⟨hholds.ascending, ?_, hunmatched⟩
      obtain ⟨forest, houtput, hlength⟩ := hholds.exists_listings
      rw [houtput, hdue, if_neg Bool.false_ne_true, ← hlength]
      exact leavesValues_listings forest

/-- **What the stack and the output hold.** Let the compiler take some tokens of
a list without a fault. Then it goes on with the others from a state in which
operators bind ever tighter up to the next parenthesis, the output leaves one
value for each operator on the stack and one more if no operand is due, and the
parentheses on the stack are those without a partner, with their offsets. -/
theorem consistent_between_tokens {tokens before after : List Token} {state : Compiler}
    (hsplit : tokens = before ++ after) (hrun : start.run before = .ok state) :
    start.run tokens = state.run after ∧ Consistent before state := by
  subst hsplit
  exact ⟨run_append hrun after, (reached_start.run hrun).consistent⟩

/-- The tokens of the group `(a+b*(c)`, which is still open. -/
def openGroup : List Token :=
  [⟨.openParen, 0⟩, ⟨.operand "a", 1⟩, ⟨.operator .add, 2⟩, ⟨.operand "b", 3⟩,
    ⟨.operator .mul, 4⟩, ⟨.openParen, 5⟩, ⟨.operand "c", 6⟩, ⟨.closeParen, 7⟩]

/-- Before the last token of the group both parentheses are on the stack. -/
theorem consistent_in_openGroup :
    start.run (openGroup.take 7) =
        .ok ⟨[.operand "c", .operand "b", .operand "a"],
          [.openParen 5, .operator .mul, .operator .add, .openParen 0], false⟩ ∧
      Consistent (openGroup.take 7)
        ⟨[.operand "c", .operand "b", .operand "a"],
          [.openParen 5, .operator .mul, .operator .add, .openParen 0], false⟩ := by
  have hrun : start.run (openGroup.take 7) =
      .ok ⟨[.operand "c", .operand "b", .operand "a"],
        [.openParen 5, .operator .mul, .operator .add, .openParen 0], false⟩ := rfl
  have hsplit : openGroup = openGroup.take 7 ++ openGroup.drop 7 := rfl
  exact ⟨hrun, (consistent_between_tokens hsplit hrun).2⟩

end Compiler

end CounterTables.Formula
