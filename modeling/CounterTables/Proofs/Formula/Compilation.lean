import CounterTables.Proofs.Formula.Grammar

/-!
# The compiler against the grammar

The compiler delays: when it has read a phrase, operators of the phrase may
still lie on the stack. Both directions of its correctness are therefore stated
for the phrase *before* those operators are moved.

* Complete: over a phrase of some level the compiler succeeds and leaves on the
  stack only operators that bind as tightly as that level; moved to the output
  they complete the post-order listing (`Leaves`).
* Sound: at any time the tokens read so far split into the operands that wait
  for their right neighbour, the open parentheses, and a last phrase (`Awaits`,
  `Holds`). Each step keeps this, whatever the token.

## Main results

* `run_of_derives` — the compiler succeeds on every phrase.
* `Reached.step`, `Reached.run` — the invariant of the loop.
* `compileTokens_eq_ok_iff` — a formula is compiled if and only if it is a
  sentence, and to the listing of its tree.
-/

namespace CounterTables.Formula

open CounterTables.Formula.Expr (Level Derives)

namespace Compiler

/-! ## Delayed operators -/

/-- Whether a phrase of the level may lie above the stack: the operator on top,
if there is one, binds weaker. -/
def Fits (level : Level) : List Pending → Prop
  | .operator op :: _ => op.precedence < level.strength
  | _ => True

theorem fits_factor (stack : List Pending) : Fits .factor stack := by
  cases stack with
  | nil => trivial
  | cons top rest =>
      cases top with
      | openParen position => trivial
      | operator op => exact Nat.lt_succ_of_le (Expr.precedence_le_two op)

/-- The output after the operators, topmost first, have been moved to it. -/
def flush (ops : List Operator) (output : List Item) : List Item :=
  (ops.map Item.operator).reverse ++ output

theorem flush_cons (op : Operator) (ops : List Operator) (output : List Item) :
    flush (op :: ops) output = flush ops (.operator op :: output) := by
  simp [flush]

theorem flush_append_singleton (ops : List Operator) (op : Operator)
    (output : List Item) :
    flush (ops ++ [op]) output = .operator op :: flush ops output := by
  simp [flush]

theorem bindsBefore_iff (top next : Operator) :
    bindsBefore top next = true ↔ next.precedence ≤ top.precedence := by
  cases top <;> cases next <;> decide

/-- An operator moves those that bind as tightly and stops below them. -/
theorem release_flush {next : Operator} {ops : List Operator}
    {stack : List Pending} (output : List Item)
    (hops : ∀ op ∈ ops, next.precedence ≤ op.precedence)
    (hfits : Fits (Level.ofOperator next) stack) :
    release next (ops.map Pending.operator ++ stack) output =
      (stack, flush ops output) := by
  induction ops generalizing output with
  | nil =>
      cases stack with
      | nil => rfl
      | cons top rest =>
          cases top with
          | openParen position => rfl
          | operator op =>
              have hlt : op.precedence < next.precedence := by
                simpa [Fits] using hfits
              have hbinds : ¬ bindsBefore op next = true := by
                rw [bindsBefore_iff]
                omega
              rw [List.map_nil, List.nil_append, release, if_neg hbinds]
              rfl
  | cons op ops ih =>
      have hbinds : bindsBefore op next = true :=
        (bindsBefore_iff op next).2 (hops op List.mem_cons_self)
      rw [List.map_cons, List.cons_append, release, if_pos hbinds,
        ih _ fun other hother => hops other (List.mem_cons_of_mem op hother),
        flush_cons]

theorem closeGroup_flush (ops : List Operator) (position : Nat)
    (stack : List Pending) (output : List Item) :
    closeGroup (ops.map Pending.operator ++ .openParen position :: stack) output =
      (stack, flush ops output) := by
  induction ops generalizing output with
  | nil => rfl
  | cons op ops ih => rw [flush_cons, ← ih]; rfl

theorem drain_flush (ops : List Operator) (output : List Item) :
    drain (ops.map Pending.operator) output = .ok (flush ops output) := by
  induction ops generalizing output with
  | nil => rfl
  | cons op ops ih => rw [flush_cons, ← ih]; rfl

/-! ## Runs over phrases -/

theorem run_cons {state next : Compiler} {token : Token}
    (h : state.step token = .ok next) (rest : List Token) :
    state.run (token :: rest) = next.run rest := by
  rw [run, h]

/-- A run that succeeds has taken its first token. -/
theorem exists_step_of_run_cons {state next : Compiler} {token : Token}
    {rest : List Token} (h : state.run (token :: rest) = .ok next) :
    ∃ later, state.step token = .ok later ∧ later.run rest = .ok next := by
  rw [run] at h
  cases hstep : state.step token with
  | error fault => simp [hstep] at h
  | ok later => exact ⟨later, rfl, by simpa only [hstep] using h⟩

theorem run_append {state next : Compiler} {tokens : List Token}
    (h : state.run tokens = .ok next) (rest : List Token) :
    state.run (tokens ++ rest) = next.run rest := by
  induction tokens generalizing state with
  | nil => rw [Except.ok.inj h]; rfl
  | cons token tokens ih =>
      obtain ⟨later, hstep, hlater⟩ := exists_step_of_run_cons h
      rw [List.cons_append, run_cons hstep, ih hlater]

/-- What a phrase of some level leaves behind, started where an operand was due:
operators of that level or tighter above the old stack, which complete the
listing of its tree. -/
structure Leaves (level : Level) (tree : Expr) (stack : List Pending)
    (output : List Item) (after : Compiler) (ops : List Operator) : Prop where
  due : after.operandDue = false
  stack_eq : after.stack = ops.map Pending.operator ++ stack
  tight : ∀ op ∈ ops, level.strength ≤ op.precedence
  listing : flush ops after.output = tree.postOrder.reverse ++ output

theorem Leaves.weaken {tight weak : Level} {tree : Expr}
    {stack : List Pending} {output : List Item} {after : Compiler}
    {ops : List Operator} (h : Leaves tight tree stack output after ops)
    (hle : weak.strength ≤ tight.strength) :
    Leaves weak tree stack output after ops where
  due := h.due
  stack_eq := h.stack_eq
  tight := fun op hop => Nat.le_trans hle (h.tight op hop)
  listing := h.listing

theorem Fits.tighten {weak tight : Level} {stack : List Pending}
    (h : Fits weak stack) (hle : weak.strength ≤ tight.strength) :
    Fits tight stack := by
  cases stack with
  | nil => trivial
  | cons top rest =>
      cases top with
      | openParen position => trivial
      | operator op => exact Nat.lt_of_lt_of_le h hle

/-- An operator after a phrase of its level completes the listing of that phrase
and comes to lie on the old stack. -/
theorem step_operator_of_leaves {op : Operator} {tree : Expr}
    {stack : List Pending} {output : List Item} {after : Compiler}
    {ops : List Operator} {token : Token}
    (h : Leaves (Level.ofOperator op) tree stack output after ops)
    (hfits : Fits (Level.ofOperator op) stack)
    (htoken : token.lexeme = .operator op) :
    after.step token =
      .ok ⟨tree.postOrder.reverse ++ output, .operator op :: stack, true⟩ := by
  have hops : ∀ other ∈ ops, op.precedence ≤ other.precedence := by
    intro other hother
    have hle := h.tight other hother
    rwa [Level.strength_ofOperator] at hle
  have hrelease := release_flush after.output hops hfits
  rw [← h.stack_eq, h.listing] at hrelease
  simp [step, htoken, h.due, hrelease]

/-- A closing parenthesis after a sentence in parentheses removes both and
completes the listing of the sentence. -/
theorem step_closeParen_of_leaves {tree : Expr} {position : Nat}
    {stack : List Pending} {output : List Item} {after : Compiler}
    {ops : List Operator} {token : Token}
    (h : Leaves .sum tree (.openParen position :: stack) output after ops)
    (htoken : token.lexeme = .closeParen) :
    after.step token =
      .ok ⟨tree.postOrder.reverse ++ output, stack, false⟩ := by
  have hopen : hasOpen after.stack = true := by
    simp [hasOpen, h.stack_eq]
  have hclose := closeGroup_flush ops position stack after.output
  rw [← h.stack_eq, h.listing] at hclose
  simp [step, htoken, hopen, h.due, hclose]

/-- Over a phrase the compiler succeeds. The operators that it leaves on the
stack are the delayed ones on the right edge of the tree. -/
theorem run_of_derives {level : Level} {lexemes : List Lexeme} {tree : Expr}
    (h : Derives level lexemes tree) :
    ∀ (tokens : List Token) (stack : List Pending) (output : List Item),
      tokens.map Token.lexeme = lexemes → Fits level stack →
      ∃ after ops, run ⟨output, stack, true⟩ tokens = .ok after ∧
        Leaves level tree stack output after ops := by
  induction h with
  | operand name =>
      intro tokens stack output htokens _
      obtain ⟨token, rest, rfl, hlexeme, hrest⟩ := List.map_eq_cons_iff.1 htokens
      obtain rfl := List.map_eq_nil_iff.1 hrest
      refine ⟨⟨.operand name :: output, stack, false⟩, [], ?_, ?_⟩
      · simp [run, step, hlexeme]
      · exact ⟨rfl, rfl, by simp, rfl⟩
  | @group inner tree _ ih =>
      intro tokens stack output htokens _
      rw [List.cons_append] at htokens
      obtain ⟨first, others, rfl, hfirst, hothers⟩ :=
        List.map_eq_cons_iff.1 htokens
      obtain ⟨middle, ending, rfl, hmiddle, hending⟩ :=
        List.map_eq_append_iff.1 hothers
      obtain ⟨last, rest, rfl, hlast, hrest⟩ := List.map_eq_cons_iff.1 hending
      obtain rfl := List.map_eq_nil_iff.1 hrest
      obtain ⟨after, ops, hrun, hleaves⟩ :=
        ih middle (.openParen first.position :: stack) output hmiddle trivial
      have hopen : step ⟨output, stack, true⟩ first =
          .ok ⟨output, .openParen first.position :: stack, true⟩ := by
        simp [step, hfirst]
      refine ⟨⟨tree.postOrder.reverse ++ output, stack, false⟩, [], ?_, ?_⟩
      · rw [run_cons hopen, run_append hrun,
          run_cons (step_closeParen_of_leaves hleaves hlast)]
        rfl
      · exact ⟨rfl, rfl, by simp, rfl⟩
  | product _ ih =>
      intro tokens stack output htokens hfits
      obtain ⟨after, ops, hrun, hleaves⟩ :=
        ih tokens stack output htokens (hfits.tighten (by decide))
      exact ⟨after, ops, hrun, hleaves.weaken (by decide)⟩
  | sum _ ih =>
      intro tokens stack output htokens hfits
      obtain ⟨after, ops, hrun, hleaves⟩ :=
        ih tokens stack output htokens (hfits.tighten (by decide))
      exact ⟨after, ops, hrun, hleaves.weaken (by decide)⟩
  | @binary op left right lhs rhs _ _ ihLeft ihRight =>
      intro tokens stack output htokens hfits
      obtain ⟨leftTokens, others, rfl, hleft, hothers⟩ :=
        List.map_eq_append_iff.1 htokens
      obtain ⟨middle, rightTokens, rfl, hmiddle, hright⟩ :=
        List.map_eq_cons_iff.1 hothers
      obtain ⟨between, delayed, hrunLeft, hleavesLeft⟩ :=
        ihLeft leftTokens stack output hleft hfits
      have hstep := step_operator_of_leaves hleavesLeft hfits hmiddle
      -- The operator now lies on the old stack, and the right phrase is of a
      -- level that it does not reach.
      obtain ⟨after, ops, hrunRight, hleavesRight⟩ :=
        ihRight rightTokens (.operator op :: stack)
          (lhs.postOrder.reverse ++ output) hright (by simp [Fits])
      refine ⟨after, ops ++ [op], ?_, ?_⟩
      · rw [run_append hrunLeft, run_cons hstep, hrunRight]
      · refine
          { due := hleavesRight.due
            stack_eq := by simp [hleavesRight.stack_eq]
            tight := ?_
            listing := ?_ }
        · intro other hother
          rw [Level.strength_ofOperator]
          rcases List.mem_append.1 hother with hother | hother
          · have hle := hleavesRight.tight other hother
            rw [Level.strength_tighter_ofOperator] at hle
            omega
          · have heq := List.mem_singleton.1 hother
            exact Nat.le_of_eq (congrArg Operator.precedence heq.symm)
        · rw [flush_append_singleton, hleavesRight.listing]
          simp [Expr.postOrder]

/-! ## The invariant of the loop -/

/-- What has been read where an operand is due: left operands, each with its
operator, and open parentheses. The stack and the output hold exactly these, and
the operators between two parentheses bind ever tighter. -/
inductive Awaits : List Token → List Pending → List Item → Prop
  | start : Awaits [] [] []
  /-- A parenthesis has been opened. -/
  | group {read : List Token} {stack : List Pending} {output : List Item}
      {token : Token} :
      Awaits read stack output →
      token.lexeme = .openParen →
      Awaits (read ++ [token]) (.openParen token.position :: stack) output
  /-- A left operand and its operator have been read. -/
  | operator {read left : List Token} {stack : List Pending}
      {output : List Item} {token : Token} {op : Operator} {lhs : Expr} :
      Awaits read stack output →
      Fits (Level.ofOperator op) stack →
      Derives (Level.ofOperator op) (left.map Token.lexeme) lhs →
      token.lexeme = .operator op →
      Awaits (read ++ left ++ [token]) (.operator op :: stack)
        (lhs.postOrder.reverse ++ output)

/-- What has been read where no operand is due: after all that waits, a last
phrase of the level. -/
inductive Holds (level : Level) : List Token → List Pending → List Item → Prop
  | phrase {read last : List Token} {stack : List Pending}
      {output : List Item} {tree : Expr} :
      Awaits read stack output →
      Fits level stack →
      Derives level (last.map Token.lexeme) tree →
      Holds level (read ++ last) stack (tree.postOrder.reverse ++ output)

/-- The state after the tokens `read`. -/
def Reached (read : List Token) (state : Compiler) : Prop :=
  if state.operandDue then Awaits read state.stack state.output
  else Holds .factor read state.stack state.output

theorem Holds.weaken {tight weak : Level} {read : List Token}
    {stack : List Pending} {output : List Item}
    (h : Holds tight read stack output) (hle : weak.strength ≤ tight.strength)
    (hfits : Fits weak stack) : Holds weak read stack output := by
  obtain ⟨hawaits, _, hderives⟩ := h
  exact .phrase hawaits hfits (hderives.weaken hle)

/-- Moving the operator on top joins the last phrase with the operand that
waited for it. -/
theorem Holds.join {level : Level} {op : Operator} {read : List Token}
    {stack : List Pending} {output : List Item}
    (h : Holds level read (.operator op :: stack) output) :
    Holds (Level.ofOperator op) read stack (.operator op :: output) := by
  obtain @⟨_, last, _, _, rhs, hawaits, hlt, hright⟩ := h
  obtain _ | _ |
      @⟨before, left, _, waiting, token, _, lhs, hawaits, hfits, hleft, htoken⟩ :=
    hawaits
  have hle : (Level.ofOperator op).tighter.strength ≤ level.strength := by
    rw [Level.strength_tighter_ofOperator]
    exact hlt
  have hjoined : Derives (Level.ofOperator op)
      ((left ++ token :: last).map Token.lexeme) (.binary op lhs rhs) := by
    rw [List.map_append, List.map_cons, htoken]
    exact .binary op hleft (hright.weaken hle)
  have hphrase := Holds.phrase hawaits hfits hjoined
  simpa [Expr.postOrder] using hphrase

theorem Holds.release {next : Operator} {level : Level} {read : List Token}
    {stack : List Pending} {output : List Item}
    (h : Holds level read stack output)
    (hle : next.precedence ≤ level.strength) :
    Holds (Level.ofOperator next) read (release next stack output).1
      (release next stack output).2 := by
  induction stack generalizing level output with
  | nil => exact h.weaken (by simpa using hle) trivial
  | cons top rest ih =>
      cases top with
      | openParen position => exact h.weaken (by simpa using hle) trivial
      | operator op =>
          rw [Compiler.release]
          split
          · rename_i hbinds
            rw [bindsBefore_iff] at hbinds
            exact ih h.join (by simpa using hbinds)
          · rename_i hbinds
            rw [bindsBefore_iff] at hbinds
            exact h.weaken (by simpa using hle) (by simp [Fits]; omega)

theorem Holds.closeGroup {level : Level} {read : List Token} {token : Token}
    {stack : List Pending} {output : List Item}
    (h : Holds level read stack output) (hopen : hasOpen stack = true)
    (htoken : token.lexeme = .closeParen) :
    Holds .factor (read ++ [token]) (closeGroup stack output).1
      (closeGroup stack output).2 := by
  induction stack generalizing level output with
  | nil => cases hopen
  | cons top rest ih =>
      cases top with
      | operator op => exact ih h.join hopen
      | openParen position =>
          obtain @⟨_, last, _, _, tree, hawaits, _, hinner⟩ := h
          obtain _ | @⟨before, _, _, first, hawaits, hfirst⟩ | _ := hawaits
          have hgroup : Derives .factor
              ((first :: last ++ [token]).map Token.lexeme) tree := by
            rw [List.map_append, List.map_cons, hfirst, List.map_singleton,
              htoken]
            exact .group (hinner.weaken level.sum_le)
          have hread : before ++ [first] ++ last ++ [token] =
              before ++ (first :: last ++ [token]) := by simp
          rw [hread]
          exact .phrase hawaits (fits_factor rest) hgroup

theorem Holds.drain {level : Level} {read : List Token}
    {stack : List Pending} {output items : List Item}
    (h : Holds level read stack output)
    (hdrain : drain stack output = .ok items) :
    ∃ tree, Derives .sum (read.map Token.lexeme) tree ∧
      items = tree.postOrder.reverse := by
  induction stack generalizing level output with
  | nil =>
      obtain @⟨_, last, _, _, tree, hawaits, _, hlast⟩ := h
      obtain _ | _ | _ := hawaits
      refine ⟨tree, hlast.weaken level.sum_le, ?_⟩
      simpa using (Except.ok.inj hdrain).symm
  | cons top rest ih =>
      cases top with
      | operator op => exact ih h.join hdrain
      | openParen position => cases hdrain

/-! ## Steps and runs -/

/-- Everything that a step can do, with its guard. -/
theorem step_cases {state next : Compiler} {token : Token}
    (h : state.step token = .ok next) :
    (∃ name, token.lexeme = .operand name ∧ state.operandDue = true ∧
      next = ⟨.operand name :: state.output, state.stack, false⟩) ∨
    (∃ op, token.lexeme = .operator op ∧ state.operandDue = false ∧
      next = ⟨(release op state.stack state.output).2,
        .operator op :: (release op state.stack state.output).1, true⟩) ∨
    (token.lexeme = .openParen ∧ state.operandDue = true ∧
      next = ⟨state.output, .openParen token.position :: state.stack, true⟩) ∨
    (token.lexeme = .closeParen ∧ hasOpen state.stack = true ∧
      state.operandDue = false ∧
      next = ⟨(closeGroup state.stack state.output).2,
        (closeGroup state.stack state.output).1, false⟩) := by
  obtain ⟨output, stack, due⟩ := state
  obtain ⟨lexeme, position⟩ := token
  cases lexeme with
  | operand name =>
      cases due with
      | false => cases h
      | true => exact .inl ⟨name, rfl, rfl, (Except.ok.inj h).symm⟩
  | operator op =>
      cases due with
      | true => cases h
      | false => exact .inr (.inl ⟨op, rfl, rfl, (Except.ok.inj h).symm⟩)
  | openParen =>
      cases due with
      | false => cases h
      | true => exact .inr (.inr (.inl ⟨rfl, rfl, (Except.ok.inj h).symm⟩))
  | closeParen =>
      cases hopen : hasOpen stack with
      | false => simp [step, hopen] at h
      | true =>
          cases due with
          | true => simp [step, hopen] at h
          | false =>
              simp only [step, hopen] at h
              exact .inr (.inr (.inr ⟨rfl, rfl, rfl, (Except.ok.inj h).symm⟩))

theorem reached_due {read : List Token} {state : Compiler}
    (h : Reached read state) (hdue : state.operandDue = true) :
    Awaits read state.stack state.output := by
  rwa [Reached, if_pos hdue] at h

theorem reached_not_due {read : List Token} {state : Compiler}
    (h : Reached read state) (hdue : state.operandDue = false) :
    Holds .factor read state.stack state.output := by
  rwa [Reached, if_neg (by simp [hdue])] at h

theorem reached_start : Reached [] start := .start

/-- Every step keeps the invariant. -/
theorem Reached.step {read : List Token} {state next : Compiler}
    {token : Token} (h : Reached read state)
    (hstep : state.step token = .ok next) : Reached (read ++ [token]) next := by
  rcases step_cases hstep with ⟨name, htoken, hdue, rfl⟩ |
    ⟨op, htoken, hdue, rfl⟩ | ⟨htoken, hdue, rfl⟩ | ⟨htoken, hopen, hdue, rfl⟩
  · have hname : Derives .factor ([token].map Token.lexeme) (.operand name) := by
      rw [List.map_singleton, htoken]
      exact .operand name
    exact Holds.phrase (reached_due h hdue) (fits_factor _) hname
  · have hholds := (reached_not_due h hdue).release
      (Nat.le_succ_of_le (Expr.precedence_le_two op))
    generalize release op state.stack state.output = moved at hholds ⊢
    obtain ⟨stack, output⟩ := moved
    obtain ⟨hawaits, hfits, hlhs⟩ := hholds
    exact Awaits.operator hawaits hfits hlhs htoken
  · exact Awaits.group (reached_due h hdue) htoken
  · exact (reached_not_due h hdue).closeGroup hopen htoken

/-- What holds after the tokens read holds after those that follow. -/
theorem Reached.run {read tokens : List Token} {state next : Compiler}
    (h : Reached read state) (hrun : state.run tokens = .ok next) :
    Reached (read ++ tokens) next := by
  induction tokens generalizing read state with
  | nil =>
      obtain rfl := Except.ok.inj hrun
      rwa [List.append_nil]
  | cons token rest ih =>
      obtain ⟨later, hstep, hlater⟩ := Compiler.exists_step_of_run_cons hrun
      have hreached := ih (h.step hstep) hlater
      rwa [List.append_assoc, List.singleton_append] at hreached

theorem Reached.finish {read : List Token} {state : Compiler} {size : Nat}
    {formula : Postfix} (h : Reached read state)
    (hfinish : state.finish size = .ok formula) :
    ∃ tree, Derives .sum (read.map Token.lexeme) tree ∧
      formula.items = tree.postOrder := by
  rw [Compiler.finish] at hfinish
  split at hfinish
  · cases hfinish
  · rename_i hdue
    cases hdrain : drain state.stack state.output with
    | error fault => simp [hdrain, Except.map] at hfinish
    | ok items =>
        obtain ⟨tree, hderives, rfl⟩ :=
          (reached_not_due h (by simpa using hdue)).drain hdrain
        refine ⟨tree, hderives, ?_⟩
        rw [hdrain] at hfinish
        have hformula := Except.ok.inj hfinish
        rw [← hformula]
        exact List.reverse_reverse _

end Compiler

/-! ## Sentences -/

/-- Tokens are compiled if and only if they are a sentence, and then to the
listing of its tree. -/
theorem compileTokens_eq_ok_iff {size : Nat} {tokens : List Token}
    {formula : Postfix} :
    compileTokens size tokens = .ok formula ↔
      ∃ tree, Derives .sum (tokens.map Token.lexeme) tree ∧
        formula.items = tree.postOrder := by
  rw [compileTokens]
  constructor
  · intro h
    split at h
    · cases h
    cases hrun : Compiler.start.run tokens with
    | error fault => simp [hrun] at h
    | ok state =>
        simp only [hrun] at h
        exact (Compiler.reached_start.run hrun).finish h
  · rintro ⟨tree, hderives, hitems⟩
    have hne : tokens.isEmpty = false := by
      cases tokens with
      | nil => exact absurd hderives.alternates (by decide)
      | cons token rest => rfl
    obtain ⟨after, ops, hrun, hleaves⟩ :=
      Compiler.run_of_derives hderives tokens [] [] rfl trivial
    have hdrain : Compiler.drain after.stack after.output =
        .ok tree.postOrder.reverse := by
      rw [hleaves.stack_eq, List.append_nil, Compiler.drain_flush,
        hleaves.listing, List.append_nil]
    have hfinish : after.finish size = .ok formula := by
      rw [Compiler.finish, hleaves.due, hdrain]
      obtain ⟨items⟩ := formula
      simp [Except.map, ← hitems]
    rw [hne, show Compiler.start = ⟨[], [], true⟩ from rfl, hrun]
    exact hfinish

/-! ## The shape of what is compiled -/

namespace Compiler

/-- The number of open parentheses on the stack. -/
def depth : List Pending → Nat
  | [] => 0
  | .openParen _ :: rest => depth rest + 1
  | .operator _ :: rest => depth rest

theorem hasOpen_iff (stack : List Pending) :
    hasOpen stack = true ↔ depth stack ≠ 0 := by
  induction stack with
  | nil => simp [hasOpen, depth]
  | cons top rest ih =>
      cases top with
      | openParen position => simp [hasOpen, depth]
      | operator op => simpa [hasOpen, depth] using ih

theorem depth_release (next : Operator) (stack : List Pending)
    (output : List Item) : depth (release next stack output).1 = depth stack := by
  fun_induction release next stack output with
  | case1 top rest output hbinds ih => exact ih
  | case2 top rest output hbinds => rfl
  | case3 stack output hother => rfl

theorem depth_closeGroup (stack : List Pending) (output : List Item) :
    depth (closeGroup stack output).1 = depth stack - 1 := by
  fun_induction closeGroup stack output with
  | case1 top rest output ih => exact ih
  | case2 position rest output => rfl
  | case3 output => rfl

theorem drain_of_depth_eq_zero {stack : List Pending}
    (h : depth stack = 0) (output : List Item) :
    ∃ items, drain stack output = .ok items := by
  induction stack generalizing output with
  | nil => exact ⟨output, rfl⟩
  | cons top rest ih =>
      cases top with
      | openParen position => cases h
      | operator op => exact ih h (.operator op :: output)

/-- A token in its place is taken, and the shape of the rest stays right. -/
theorem step_of_shape {state : Compiler} {token : Token} {rest : List Lexeme}
    (halternates : alternates state.operandDue (token.lexeme :: rest) = true)
    (hbalances : balances (depth state.stack) (token.lexeme :: rest) = true) :
    ∃ next, state.step token = .ok next ∧
      alternates next.operandDue rest = true ∧
      balances (depth next.stack) rest = true := by
  obtain ⟨output, stack, due⟩ := state
  rw [alternates, Bool.and_eq_true, beq_iff_eq] at halternates
  obtain ⟨hdue, hrest⟩ := halternates
  cases hlexeme : token.lexeme with
  | operand name =>
      rw [hlexeme] at hdue hrest hbalances
      obtain rfl : true = due := hdue
      exact ⟨⟨.operand name :: output, stack, false⟩,
        by simp [step, hlexeme], hrest, hbalances⟩
  | operator op =>
      rw [hlexeme] at hdue hrest hbalances
      obtain rfl : false = due := hdue
      refine ⟨⟨(release op stack output).2,
        .operator op :: (release op stack output).1, true⟩,
        by simp [step, hlexeme], hrest, ?_⟩
      rw [depth, depth_release]
      exact hbalances
  | openParen =>
      rw [hlexeme] at hdue hrest hbalances
      obtain rfl : true = due := hdue
      exact ⟨⟨output, .openParen token.position :: stack, true⟩,
        by simp [step, hlexeme], hrest, hbalances⟩
  | closeParen =>
      rw [hlexeme] at hdue hrest hbalances
      obtain rfl : false = due := hdue
      rw [balances, Bool.and_eq_true, bne_iff_ne] at hbalances
      have hopen : hasOpen stack = true := (hasOpen_iff stack).2 hbalances.1
      refine ⟨⟨(closeGroup stack output).2, (closeGroup stack output).1, false⟩,
        by simp [step, hlexeme, hopen], hrest, ?_⟩
      rw [depth_closeGroup]
      exact hbalances.2

theorem run_of_shape {state : Compiler} {tokens : List Token}
    (halternates : alternates state.operandDue (tokens.map Token.lexeme) = true)
    (hbalances : balances (depth state.stack) (tokens.map Token.lexeme) = true) :
    ∃ next, state.run tokens = .ok next ∧ next.operandDue = false ∧
      depth next.stack = 0 := by
  induction tokens generalizing state with
  | nil =>
      exact ⟨state, rfl, by simpa [alternates] using halternates,
        by simpa [balances] using hbalances⟩
  | cons token rest ih =>
      obtain ⟨later, hstep, halternates, hbalances⟩ :=
        step_of_shape halternates hbalances
      obtain ⟨next, hrun, hdue, hdepth⟩ := ih halternates hbalances
      exact ⟨next, by rw [run_cons hstep, hrun], hdue, hdepth⟩

end Compiler

/-- Tokens with the given lexemes. Their positions play no part in whether they
are compiled. -/
def placed (lexemes : List Lexeme) : List Token :=
  lexemes.map fun lexeme => ⟨lexeme, 0⟩

theorem lexemes_placed (lexemes : List Lexeme) :
    (placed lexemes).map Token.lexeme = lexemes := by
  simp [placed, Function.comp_def]

/-- The sentences are the sequences in which operands and operators alternate
and parentheses match. -/
theorem exists_derives_iff {lexemes : List Lexeme} :
    (∃ tree, Derives .sum lexemes tree) ↔
      alternates true lexemes = true ∧ balances 0 lexemes = true := by
  constructor
  · rintro ⟨tree, hderives⟩
    exact ⟨hderives.alternates, hderives.balances⟩
  · rintro ⟨halternates, hbalances⟩
    -- The compiler finds the tree: it takes tokens of this shape, and what it
    -- takes is a sentence.
    rw [← lexemes_placed lexemes] at halternates hbalances ⊢
    obtain ⟨next, hrun, hdue, hdepth⟩ :=
      @Compiler.run_of_shape Compiler.start _ halternates hbalances
    obtain ⟨items, hdrain⟩ :=
      Compiler.drain_of_depth_eq_zero hdepth next.output
    have hfinish : next.finish 0 = .ok ⟨items.reverse⟩ := by
      rw [Compiler.finish, hdue, hdrain]
      rfl
    obtain ⟨tree, hderives, -⟩ := (Compiler.reached_start.run hrun).finish hfinish
    exact ⟨tree, hderives⟩

end CounterTables.Formula
