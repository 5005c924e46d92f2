import CounterTables.Proofs.Formula.Compilation

/-!
# Which parentheses are open

An open parenthesis is closed if what follows it goes on to its partner, with
matching parentheses in between. The stack of the compiler keeps the open
parentheses that are not closed yet, the latest on top: a phrase that has been
read in full has matching parentheses, so it adds none to them.

## Main results

* `isClosed_of_balances` — in a text with matching parentheses all are closed.
* `Opens.hasUnclosed_iff`, `Opens.exists_latest` — what the list of open
  parentheses says about the tokens.
* `Reached.opens` — the stack holds the open parentheses of what was read.
-/

namespace CounterTables.Formula

open CounterTables.Formula.Expr (Level Derives)

/-! ## Partners -/

/-- The partner of a parenthesis is among the lexemes that follow it. -/
def IsClosed (after : List Lexeme) : Prop :=
  ∃ inside rest, after = inside ++ .closeParen :: rest ∧ balances 0 inside = true

/-- Some parenthesis among the lexemes has no partner behind it. -/
def HasUnclosed (lexemes : List Lexeme) : Prop :=
  ∃ front back, lexemes = front ++ .openParen :: back ∧ ¬ IsClosed back

/-- What closes as many parentheses as were open leaves the others open. -/
theorem balances_append {depth : Nat} {inside : List Lexeme}
    (h : balances depth inside = true) (more : Nat) (rest : List Lexeme) :
    balances (depth + more) (inside ++ rest) = balances more rest := by
  induction inside generalizing depth with
  | nil =>
      have hdepth : depth = 0 := by simpa [balances] using h
      rw [hdepth, Nat.zero_add, List.nil_append]
  | cons lexeme inside ih =>
      cases lexeme with
      | operand name => exact ih h
      | operator op => exact ih h
      | openParen =>
          have hinside := ih (show balances (depth + 1) inside = true from h)
          rw [Nat.add_right_comm] at hinside
          exact hinside
      | closeParen =>
          rw [balances, Bool.and_eq_true, bne_iff_ne] at h
          obtain ⟨hdepth, h⟩ := h
          have hinside := ih h
          have hne : (depth + more != 0) = true := by
            rw [bne_iff_ne]
            omega
          rw [List.cons_append, balances, hne, Bool.true_and,
            show depth + more - 1 = depth - 1 + more by omega]
          exact hinside

/-- Where parentheses match with `inner` and then one and `outer` more of them
open, the one between has a partner. -/
theorem exists_partner {inner outer : Nat} {lexemes : List Lexeme}
    (h : balances (inner + outer + 1) lexemes = true) :
    ∃ inside rest, lexemes = inside ++ .closeParen :: rest ∧
      balances inner inside = true ∧ balances outer rest = true := by
  induction lexemes generalizing inner with
  | nil => simp [balances] at h
  | cons lexeme lexemes ih =>
      cases lexeme with
      | operand name =>
          have hless : balances (inner + outer + 1) lexemes = true := h
          obtain ⟨inside, rest, rfl, hinside, hrest⟩ := ih hless
          exact ⟨.operand name :: inside, rest, rfl, hinside, hrest⟩
      | operator op =>
          have hless : balances (inner + outer + 1) lexemes = true := h
          obtain ⟨inside, rest, rfl, hinside, hrest⟩ := ih hless
          exact ⟨.operator op :: inside, rest, rfl, hinside, hrest⟩
      | openParen =>
          have hmore : balances (inner + 1 + outer + 1) lexemes = true := by
            rw [Nat.add_right_comm inner 1 outer]
            exact h
          obtain ⟨inside, rest, rfl, hinside, hrest⟩ := ih hmore
          exact ⟨.openParen :: inside, rest, rfl, hinside, hrest⟩
      | closeParen =>
          rw [balances, Nat.add_sub_cancel, Bool.and_eq_true] at h
          cases inner with
          | zero =>
              rw [Nat.zero_add] at h
              exact ⟨[], lexemes, rfl, rfl, h.2⟩
          | succ inner =>
              have hless : balances (inner + outer + 1) lexemes = true := by
                rw [Nat.add_right_comm]
                exact h.2
              obtain ⟨inside, rest, rfl, hinside, hrest⟩ := ih hless
              exact ⟨.closeParen :: inside, rest, rfl,
                by simpa [balances] using hinside, hrest⟩

theorem balances_suffix {depth : Nat} {front back : List Lexeme}
    (h : balances depth (front ++ back) = true) :
    ∃ later, balances later back = true := by
  induction front generalizing depth with
  | nil => exact ⟨depth, h⟩
  | cons lexeme front ih =>
      cases lexeme with
      | operand name => exact ih h
      | operator op => exact ih h
      | openParen => exact ih (show balances (depth + 1) (front ++ back) = true from h)
      | closeParen =>
          rw [List.cons_append, balances, Bool.and_eq_true] at h
          exact ih h.2

/-- Where parentheses match, each one that is opened is closed. -/
theorem isClosed_of_balances {depth : Nat} {front back : List Lexeme}
    (h : balances depth (front ++ .openParen :: back) = true) : IsClosed back := by
  obtain ⟨later, hlater⟩ := balances_suffix h
  have hback : balances (0 + later + 1) back = true := by
    rw [Nat.zero_add]
    exact hlater
  obtain ⟨inside, rest, rfl, hinside, -⟩ := exists_partner hback
  exact ⟨inside, rest, rfl, hinside⟩

theorem not_hasUnclosed_of_balances {lexemes : List Lexeme}
    (h : balances 0 lexemes = true) : ¬ HasUnclosed lexemes := by
  rintro ⟨front, back, rfl, hunclosed⟩
  exact hunclosed (isClosed_of_balances h)

/-- Before lexemes with matching parentheses, one more is never closed. -/
theorem not_isClosed_of_balances {after : List Lexeme}
    (h : balances 0 after = true) : ¬ IsClosed after := by
  rintro ⟨inside, rest, rfl, hinside⟩
  have hclose := balances_append hinside 0 (.closeParen :: rest)
  rw [Nat.add_zero, h] at hclose
  simp [balances] at hclose

/-! ## Open parentheses -/

/-- The tokens leave parentheses open at these offsets, the latest first. -/
inductive Opens : List Token → List Nat → Prop
  | none {tokens : List Token} :
      balances 0 (tokens.map Token.lexeme) = true → Opens tokens []
  | latest {before after : List Token} {token : Token} {positions : List Nat} :
      Opens before positions →
      token.lexeme = .openParen →
      balances 0 (after.map Token.lexeme) = true →
      Opens (before ++ token :: after) (token.position :: positions)

namespace Opens

/-- Tokens with matching parentheses leave no more of them open. -/
theorem append {tokens more : List Token} {positions : List Nat}
    (h : Opens tokens positions) (hmore : balances 0 (more.map Token.lexeme) = true) :
    Opens (tokens ++ more) positions := by
  cases h with
  | none hbalances =>
      apply Opens.none
      have happend := balances_append hbalances 0 (more.map Token.lexeme)
      rw [List.map_append, ← Nat.add_zero 0, happend, hmore]
  | @latest before after token positions hbefore htoken hafter =>
      rw [List.append_assoc, List.cons_append]
      apply Opens.latest hbefore htoken
      have happend := balances_append hafter 0 (more.map Token.lexeme)
      rw [List.map_append, ← Nat.add_zero 0, happend, hmore]

/-- The first offset is that of the last parenthesis without a partner. -/
theorem exists_latest {tokens : List Token} {position : Nat} {positions : List Nat}
    (h : Opens tokens (position :: positions)) :
    ∃ before token after, tokens = before ++ token :: after ∧
      token.position = position ∧ token.lexeme = .openParen ∧
      ¬ IsClosed (after.map Token.lexeme) ∧ ¬ HasUnclosed (after.map Token.lexeme) := by
  cases h with
  | @latest before after token positions _ htoken hafter =>
      exact ⟨before, token, after, rfl, rfl, htoken, not_isClosed_of_balances hafter,
        not_hasUnclosed_of_balances hafter⟩

theorem hasUnclosed_iff {tokens : List Token} {positions : List Nat}
    (h : Opens tokens positions) :
    HasUnclosed (tokens.map Token.lexeme) ↔ positions ≠ [] := by
  cases positions with
  | nil =>
      cases h with
      | none hbalances =>
          exact iff_of_false (not_hasUnclosed_of_balances hbalances) fun hne => hne rfl
  | cons position positions =>
      obtain ⟨before, token, after, rfl, -, htoken, hunclosed, -⟩ := h.exists_latest
      refine iff_of_true
        ⟨before.map Token.lexeme, after.map Token.lexeme, ?_, hunclosed⟩
        (List.cons_ne_nil position positions)
      rw [List.map_append, List.map_cons, htoken]

end Opens

/-! ## The stack -/

namespace Compiler

/-- The offsets of the parentheses on the stack, the topmost first. -/
def openings : List Pending → List Nat
  | [] => []
  | .openParen position :: rest => position :: openings rest
  | .operator _ :: rest => openings rest

theorem hasOpen_iff_openings (stack : List Pending) :
    hasOpen stack = true ↔ openings stack ≠ [] := by
  induction stack with
  | nil => simp [hasOpen, openings]
  | cons top rest ih =>
      cases top with
      | openParen position => simp [hasOpen, openings]
      | operator op => simpa [hasOpen, openings] using ih

theorem Awaits.opens {read : List Token} {stack : List Pending}
    {output : List Item} (h : Awaits read stack output) :
    Opens read (openings stack) := by
  induction h with
  | start => exact .none rfl
  | group _ htoken ih => exact .latest ih htoken rfl
  | @operator read left stack output token op lhs _ _ hleft htoken ih =>
      have hmore : balances 0 ((left ++ [token]).map Token.lexeme) = true := by
        rw [List.map_append, hleft.balances_append, List.map_singleton, htoken]
        rfl
      rw [List.append_assoc]
      exact ih.append hmore

theorem Holds.opens {level : Level} {read : List Token} {stack : List Pending}
    {output : List Item} (h : Holds level read stack output) :
    Opens read (openings stack) := by
  obtain ⟨hawaits, -, hlast⟩ := h
  exact hawaits.opens.append hlast.balances

/-- The parentheses on the stack are those that are open in what was read. -/
theorem Reached.opens {read : List Token} {state : Compiler}
    (h : Reached read state) : Opens read (openings state.stack) := by
  cases hdue : state.operandDue with
  | true => exact (reached_due h hdue).opens
  | false => exact (reached_not_due h hdue).opens

end Compiler

end CounterTables.Formula
