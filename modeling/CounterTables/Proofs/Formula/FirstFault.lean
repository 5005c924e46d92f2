import Mathlib
import CounterTables.Proofs.Formula.Nesting
import CounterTables.Proofs.Formula.Renderings
import CounterTables.Proofs.Formula.Tiling

/-!
# The first fault of a formula

A formula that is cut into tokens and yet refused is refused at the earliest
place possible. The compiler stops at the first token after which nothing can
follow that would make a formula; every token that it has taken belongs to some
formula, because what is still missing can be supplied: an operand if one is
due, and a partner for each open parenthesis. A formula that is refused at its
end only is the beginning of another one, and lacks just these.

## Main results

* `IsBeginning` — the lexemes that some formula begins with.
* `isBeginning_of_run`, `run_of_isBeginning` — the compiler takes just these.
* `Scans.standsIn` — the position of a token is its byte offset.
* `compile_blames_first_fault` — which fault is reported, and where.
-/

namespace CounterTables.Formula

open CounterTables.Formula.Expr (Derives)

/-! ## Beginnings -/

/-- Some text that is compiled begins with the lexemes. -/
def IsBeginning (lexemes : List Lexeme) : Prop :=
  ∃ source tokens formula, tokenize source = .ok tokens ∧
    lexemes <+: tokens.map Token.lexeme ∧ compile source = .ok formula

theorem IsBeginning.of_prefix {lexemes front : List Lexeme}
    (h : IsBeginning lexemes) (hfront : front <+: lexemes) : IsBeginning front := by
  obtain ⟨source, tokens, formula, htokens, hlexemes, hcompile⟩ := h
  exact ⟨source, tokens, formula, htokens, hfront.trans hlexemes, hcompile⟩

/-! ### What is missing -/

namespace Compiler

/-- An operand if one is due, and a partner for each open parenthesis. -/
def completion (state : Compiler) : List Lexeme :=
  (if state.operandDue then [.operand "x"] else []) ++
    List.replicate (depth state.stack) .closeParen

theorem alternates_replicate_closeParen (count : Nat) :
    alternates false (List.replicate count .closeParen) = true := by
  induction count with
  | zero => rfl
  | succ count ih => exact ih

theorem balances_replicate_closeParen (count : Nat) :
    balances count (List.replicate count .closeParen) = true := by
  induction count with
  | zero => rfl
  | succ count ih =>
      rw [List.replicate_succ, balances, Nat.add_sub_cancel, ih]
      simp

theorem alternates_completion (state : Compiler) :
    alternates state.operandDue state.completion = true := by
  have hclose := alternates_replicate_closeParen (depth state.stack)
  obtain ⟨output, stack, due⟩ := state
  cases due with
  | true => exact hclose
  | false => exact hclose

theorem balances_completion (state : Compiler) :
    balances (depth state.stack) state.completion = true := by
  have hclose := balances_replicate_closeParen (depth state.stack)
  obtain ⟨output, stack, due⟩ := state
  cases due with
  | true => exact hclose
  | false => exact hclose

theorem lower_completion (state : Compiler) :
    state.completion.map Lexeme.lower = state.completion := by
  have hoperand : Lexeme.lower (.operand "x") = .operand "x" := by rfl
  have hclose : Lexeme.lower .closeParen = .closeParen := rfl
  rw [completion, List.map_append, List.map_replicate, hclose]
  split
  · rw [List.map_singleton, hoperand]
  · rw [List.map_nil]

theorem isOperand_of_mem_completion {state : Compiler} {name : String}
    (h : name ∈ operandsOf state.completion) : IsOperand name.toList := by
  have hname : name = "x" := by
    rw [mem_operandsOf_iff, completion] at h
    rcases List.mem_append.1 h with h | h
    · split at h
      · simpa using h
      · cases h
    · cases List.eq_of_mem_replicate h
  rw [hname]
  exact .word (by decide) (by simp [isOperandChar])

/-- What was read becomes a sentence when what is missing is added. -/
theorem exists_derives_completion {tokens : List Token} {state : Compiler}
    (h : start.run tokens = .ok state) :
    ∃ tree, Derives .sum (tokens.map Token.lexeme ++ state.completion) tree := by
  have halternates := state.alternates_completion
  have hbalances := state.balances_completion
  rw [← lexemes_placed state.completion] at halternates hbalances
  obtain ⟨last, hrun, hdue, hdepth⟩ := run_of_shape halternates hbalances
  obtain ⟨items, hdrain⟩ := drain_of_depth_eq_zero hdepth last.output
  have hfinish : last.finish 0 = .ok ⟨items.reverse⟩ := by
    rw [finish, hdue, hdrain]
    rfl
  have hall : start.run (tokens ++ placed state.completion) = .ok last := by
    rw [run_append h, hrun]
  obtain ⟨tree, hderives, -⟩ := (reached_start.run hall).finish hfinish
  rw [List.nil_append, List.map_append, lexemes_placed] at hderives
  exact ⟨tree, hderives⟩

/-! ### Runs -/

/-- A run that succeeds has succeeded on every beginning. -/
theorem exists_run_of_run_append {state next : Compiler} {tokens rest : List Token}
    (h : state.run (tokens ++ rest) = .ok next) :
    ∃ between, state.run tokens = .ok between ∧ between.run rest = .ok next := by
  induction tokens generalizing state with
  | nil => exact ⟨state, rfl, h⟩
  | cons token tokens ih =>
      obtain ⟨later, hstep, hlater⟩ := exists_step_of_run_cons h
      obtain ⟨between, hrun, hrest⟩ := ih hlater
      exact ⟨between, by rw [run_cons hstep, hrun], hrest⟩

/-- A run that fails has taken all tokens before one that it refuses. -/
theorem exists_step_of_run_eq_error {state : Compiler} {tokens : List Token}
    {fault : SyntaxError} (h : state.run tokens = .error fault) :
    ∃ before token after between, tokens = before ++ token :: after ∧
      state.run before = .ok between ∧ between.step token = .error fault := by
  induction tokens generalizing state with
  | nil => cases h
  | cons token tokens ih =>
      rw [run] at h
      cases hstep : state.step token with
      | error other =>
          simp only [hstep] at h
          obtain rfl := Except.error.inj h
          exact ⟨[], token, tokens, state, rfl, rfl, hstep⟩
      | ok later =>
          simp only [hstep] at h
          obtain ⟨before, refused, after, between, rfl, hrun, hrefused⟩ := ih h
          exact ⟨token :: before, refused, after, between, rfl,
            by rw [run_cons hstep, hrun], hrefused⟩

/-- A step fails on a closing parenthesis without a partner, or on a token out
of its turn. -/
theorem step_eq_error {state : Compiler} {token : Token} {fault : SyntaxError}
    (h : state.step token = .error fault) :
    (token.lexeme = .closeParen ∧ ¬ hasOpen state.stack = true ∧
      fault = .unbalancedParentheses token.position) ∨
    (¬ (token.lexeme = .closeParen ∧ ¬ hasOpen state.stack = true) ∧
      fault = .unexpectedToken token.lexeme.text token.position) := by
  obtain ⟨output, stack, due⟩ := state
  obtain ⟨lexeme, position⟩ := token
  cases lexeme with
  | operand name =>
      cases due with
      | true => cases h
      | false => exact .inr ⟨by simp, (Except.error.inj h).symm⟩
  | operator op =>
      cases due with
      | true => exact .inr ⟨by simp, (Except.error.inj h).symm⟩
      | false => cases h
  | openParen =>
      cases due with
      | true => cases h
      | false => exact .inr ⟨by simp, (Except.error.inj h).symm⟩
  | closeParen =>
      cases hopen : hasOpen stack with
      | false =>
          simp only [step, hopen] at h
          exact .inl ⟨rfl, by simp, (Except.error.inj h).symm⟩
      | true =>
          cases due with
          | true =>
              simp only [step, hopen] at h
              exact .inr ⟨by simp, (Except.error.inj h).symm⟩
          | false => simp [step, hopen] at h

end Compiler

theorem Spells.isOperand {cs : List Char} {lexemes : List Lexeme}
    (h : Spells cs lexemes) {name : String} (hname : .operand name ∈ lexemes) :
    IsOperand name.toList := by
  induction h with
  | done => cases hname
  | blank _ _ ih => exact ih hname
  | operand hoperand _ _ ih =>
      rcases List.mem_cons.1 hname with heq | hname
      · obtain rfl := Lexeme.operand.inj heq
        exact hoperand
      · exact ih hname
  | @symbol c rest lexeme lexemes hlexeme _ ih =>
      rcases List.mem_cons.1 hname with heq | hname
      · exact absurd (heq ▸ hlexeme) (ofChar?_ne_operand c name)
      · exact ih hname

/-- The compiler takes only what some formula begins with: the text that was
read so far, with what is missing written behind it, is compiled. -/
theorem isBeginning_of_run {source : String} {before after : List Token}
    {state : Compiler} (htokens : tokenize source = .ok (before ++ after))
    (hrun : Compiler.start.run before = .ok state) :
    IsBeginning (before.map Token.lexeme) := by
  obtain ⟨written, hspells, hlexemes⟩ := exists_spells (tokenize_eq_ok_iff.1 htokens)
  rw [List.map_append] at hlexemes
  obtain ⟨front, back, rfl, hfront, -⟩ := List.map_eq_append_iff.1 hlexemes.symm
  have hlower : (front ++ state.completion).map Lexeme.lower =
      before.map Token.lexeme ++ state.completion := by
    rw [List.map_append, hfront, Compiler.lower_completion]
  obtain ⟨tree, hderives⟩ := Compiler.exists_derives_completion hrun
  rw [← hlower] at hderives
  obtain ⟨tree, hwritten, -⟩ := exists_derives_of_lower hderives
  have hnames : ∀ name ∈ operandsOf (front ++ state.completion),
      IsOperand name.toList := by
    intro name hname
    rw [operandsOf_append, List.mem_append] at hname
    rcases hname with hname | hname
    · rw [mem_operandsOf_iff] at hname
      exact hspells.isOperand (List.mem_append_left back hname)
    · exact Compiler.isOperand_of_mem_completion hname
  have htext := spells_write (List.forall_mem_nil _) hwritten.alternates hnames
  obtain ⟨tokens, hscans, htokens⟩ := htext.exists_tokens 0
  rw [hlower] at htokens
  refine ⟨String.ofList ((front ++ state.completion).flatMap (Lexeme.write [])),
    tokens, _, ?_, ?_, compile_of_spells ?_ hwritten⟩
  · rw [tokenize_eq_ok_iff, String.toList_ofList]
    exact hscans
  · rw [htokens]
    exact List.prefix_append _ _
  · rw [String.toList_ofList]
    exact htext

/-- The compiler takes all that a formula begins with. -/
theorem run_of_isBeginning {tokens : List Token}
    (h : IsBeginning (tokens.map Token.lexeme)) :
    ∃ state, Compiler.start.run tokens = .ok state := by
  obtain ⟨source, others, formula, hothers, ⟨more, hmore⟩, hcompile⟩ := h
  obtain ⟨found, tree, hfound, hderives, -⟩ := compile_eq_ok_iff.1 hcompile
  obtain rfl := Except.ok.inj (hothers.symm.trans hfound)
  rw [← hmore, ← lexemes_placed more, ← List.map_append] at hderives
  obtain ⟨last, hrun, -⟩ :=
    @Compiler.run_of_shape Compiler.start _ hderives.alternates hderives.balances
  obtain ⟨state, hstate, -⟩ := Compiler.exists_run_of_run_append hrun
  exact ⟨state, hstate⟩

/-! ## Offsets -/

/-- The text of the token, in either case, is found in the source at the byte
offset that the token gives. -/
def Token.StandsIn (token : Token) (source : String) : Prop :=
  ∃ front written back, source = front ++ written ++ back ∧
    front.utf8ByteSize = token.position ∧ lowerName written = token.lexeme.text

/-- The tokens tile the source, so their positions are byte offsets. -/
theorem Scans.standsIn {source : String} {tokens : List Token}
    (h : Scans 0 source.toList tokens) {token : Token} (hmem : token ∈ tokens) :
    token.StandsIn source := by
  obtain ⟨front, written, back, hsource, hposition, -, hlower, -⟩ :=
    h.tiles.cut token hmem
  exact ⟨front, written, back, hsource, hposition, hlower⟩

/-! ## Faults -/

/-- Whether an operand is due after the lexemes, `due` at their start. -/
def dueAfter (due : Bool) : List Lexeme → Bool
  | [] => due
  | lexeme :: rest => dueAfter lexeme.demandsOperand rest

/-- What is said of a token that cannot come where it stands: a closing
parenthesis may lack a partner, every other one is unexpected. -/
inductive Blames (before : List Lexeme) (token : Token) : SyntaxError → Prop
  | unbalanced :
      token.lexeme = .closeParen → ¬ HasUnclosed before →
      Blames before token (.unbalancedParentheses token.position)
  | unexpected :
      ¬ (token.lexeme = .closeParen ∧ ¬ HasUnclosed before) →
      Blames before token (.unexpectedToken token.lexeme.text token.position)

/-- What is said of a formula that ends too early: an operand is missing, or
else the last of the open parentheses lacks its partner. -/
inductive Misses (size : Nat) (tokens : List Token) : SyntaxError → Prop
  | operand :
      dueAfter true (tokens.map Token.lexeme) = true →
      Misses size tokens (.unexpectedEnd size)
  | partner {before after : List Token} {token : Token} :
      dueAfter true (tokens.map Token.lexeme) = false →
      tokens = before ++ token :: after →
      token.lexeme = .openParen →
      ¬ IsClosed (after.map Token.lexeme) →
      ¬ HasUnclosed (after.map Token.lexeme) →
      Misses size tokens (.unbalancedParentheses token.position)

namespace Compiler

theorem run_operandDue {state next : Compiler} {tokens : List Token}
    (h : state.run tokens = .ok next) :
    next.operandDue = dueAfter state.operandDue (tokens.map Token.lexeme) := by
  induction tokens generalizing state with
  | nil =>
      obtain rfl := Except.ok.inj h
      rfl
  | cons token tokens ih =>
      obtain ⟨later, hstep, hrun⟩ := exists_step_of_run_cons h
      have hlater : later.operandDue = token.lexeme.demandsOperand := by
        rcases step_cases hstep with ⟨name, htoken, -, rfl⟩ |
          ⟨op, htoken, -, rfl⟩ | ⟨htoken, hdue, rfl⟩ | ⟨htoken, -, -, rfl⟩
        all_goals rw [htoken]; rfl
      rw [ih hrun, hlater]
      rfl

theorem drain_eq_error {stack : List Pending} {output : List Item}
    {fault : SyntaxError} (h : drain stack output = .error fault) :
    ∃ position positions, openings stack = position :: positions ∧
      fault = .unbalancedParentheses position := by
  induction stack generalizing output with
  | nil => cases h
  | cons top rest ih =>
      cases top with
      | operator op => exact ih h
      | openParen position =>
          exact ⟨position, openings rest, rfl, (Except.error.inj h).symm⟩

theorem blames_of_step {before : List Token} {state : Compiler} {token : Token}
    {fault : SyntaxError} (hrun : start.run before = .ok state)
    (hstep : state.step token = .error fault) :
    Blames (before.map Token.lexeme) token fault := by
  have hopens : Opens before (openings state.stack) := (reached_start.run hrun).opens
  have hopen : hasOpen state.stack = true ↔ HasUnclosed (before.map Token.lexeme) := by
    rw [hasOpen_iff_openings, hopens.hasUnclosed_iff]
  rw [← not_iff_not] at hopen
  rcases step_eq_error hstep with ⟨htoken, hnone, rfl⟩ | ⟨hother, rfl⟩
  · exact .unbalanced htoken (hopen.1 hnone)
  · rw [hopen] at hother
    exact .unexpected hother

theorem misses_of_finish {tokens : List Token} {state : Compiler} {size : Nat}
    {fault : SyntaxError} (hrun : start.run tokens = .ok state)
    (hfinish : state.finish size = .error fault) : Misses size tokens fault := by
  have hopens : Opens tokens (openings state.stack) := (reached_start.run hrun).opens
  have hdue := run_operandDue hrun
  rw [finish] at hfinish
  split at hfinish
  · rename_i htrue
    obtain rfl := Except.error.inj hfinish
    exact .operand (hdue ▸ htrue)
  · rename_i hfalse
    cases hdrain : drain state.stack state.output with
    | ok items => simp [hdrain, Except.map] at hfinish
    | error other =>
        rw [hdrain] at hfinish
        obtain rfl : other = fault := Except.error.inj hfinish
        obtain ⟨position, positions, hpositions, rfl⟩ := drain_eq_error hdrain
        rw [hpositions] at hopens
        obtain ⟨before, token, after, hsplit, rfl, htoken, hunclosed, hlatest⟩ :=
          hopens.exists_latest
        exact .partner (hdue ▸ Bool.eq_false_iff.2 hfalse) hsplit htoken
          hunclosed hlatest

end Compiler

/-- The token is the first after which no formula is possible any more. -/
structure FirstHopeless (tokens before : List Token) (token : Token) : Prop where
  split : before ++ [token] <+: tokens
  beginning : IsBeginning (before.map Token.lexeme)
  hopeless : ¬ IsBeginning ((before ++ [token]).map Token.lexeme)

theorem FirstHopeless.not_isBeginning {tokens before : List Token} {token : Token}
    (h : FirstHopeless tokens before token) :
    ¬ IsBeginning (tokens.map Token.lexeme) :=
  fun hall => h.hopeless (hall.of_prefix (h.split.map Token.lexeme))

/-- Only one token can be the first. -/
theorem FirstHopeless.unique {tokens before before' : List Token} {token token' : Token}
    (h : FirstHopeless tokens before token) (h' : FirstHopeless tokens before' token') :
    before = before' ∧ token = token' := by
  -- if one split came earlier, its token would be part of the other beginning
  have hle : ∀ {front front' : List Token} {last last' : Token},
      FirstHopeless tokens front last → FirstHopeless tokens front' last' →
        front'.length ≤ front.length := by
    intro front front' last last' hfirst hother
    by_contra hlt
    have hshort : front ++ [last] <+: front' := by
      refine List.prefix_of_prefix_length_le hfirst.split
        ((List.prefix_append front' [last']).trans hother.split) ?_
      rw [List.length_append, List.length_singleton]
      omega
    exact hfirst.hopeless (hother.beginning.of_prefix (hshort.map Token.lexeme))
  have hlength : (before ++ [token]).length = (before' ++ [token']).length := by
    have hfirst := hle h h'
    have hother := hle h' h
    rw [List.length_append, List.length_append, List.length_singleton,
      List.length_singleton]
    omega
  have heq : before ++ [token] = before' ++ [token'] :=
    (List.prefix_of_prefix_length_le h.split h'.split
      (Nat.le_of_eq hlength)).eq_of_length hlength
  obtain ⟨rfl, hlast⟩ := List.append_inj' heq rfl
  exact ⟨rfl, List.singleton_inj.1 hlast⟩

/-- **The first fault is reported, where it is.** Let a source be cut into at
least one token and be refused. If for some token no formula begins with the
tokens up to it, though one begins with those before it, then the fault is at
the byte offset of this token, and it is an unbalanced parenthesis or an
unexpected token. If there is no such token, the tokens are the beginning of a
formula, and the fault is that an operand is missing at the end of the source,
or else it is at the last parenthesis that lacks its partner. -/
theorem compile_blames_first_fault {source : String} {tokens : List Token}
    {fault : SyntaxError} (htokens : tokenize source = .ok tokens)
    (hne : tokens ≠ []) (hfault : compile source = .error fault) :
    (∀ before token, FirstHopeless tokens before token →
      Blames (before.map Token.lexeme) token fault) ∧
    ((¬ ∃ before token, FirstHopeless tokens before token) →
      IsBeginning (tokens.map Token.lexeme) ∧
        Misses source.utf8ByteSize tokens fault) ∧
    ∀ token ∈ tokens, token.StandsIn source := by
  have hempty : tokens.isEmpty = false := by simpa using hne
  have hcompile : compileTokens source.utf8ByteSize tokens = .error fault := by
    rw [compile, htokens] at hfault
    exact hfault
  rw [compileTokens, hempty] at hcompile
  have hstands : ∀ token ∈ tokens, token.StandsIn source :=
    fun token hmem => (tokenize_eq_ok_iff.1 htokens).standsIn hmem
  cases hrun : Compiler.start.run tokens with
  | error other =>
      simp only [hrun] at hcompile
      obtain rfl : other = fault := Except.error.inj hcompile
      obtain ⟨before, token, after, between, rfl, hbefore, hstep⟩ :=
        Compiler.exists_step_of_run_eq_error hrun
      have hfirst : FirstHopeless (before ++ token :: after) before token := by
        refine ⟨⟨after, by simp⟩, isBeginning_of_run htokens hbefore, ?_⟩
        intro hbeginning
        obtain ⟨state, hstate⟩ := run_of_isBeginning hbeginning
        rw [Compiler.run_append hbefore, Compiler.run, hstep] at hstate
        cases hstate
      refine ⟨?_, fun hnone => absurd ⟨before, token, hfirst⟩ hnone, hstands⟩
      intro other refused hother
      obtain ⟨rfl, rfl⟩ := hfirst.unique hother
      exact Compiler.blames_of_step hbefore hstep
  | ok state =>
      simp only [hrun] at hcompile
      have hall : tokenize source = .ok (tokens ++ []) := by rwa [List.append_nil]
      have hbeginning : IsBeginning (tokens.map Token.lexeme) :=
        isBeginning_of_run hall hrun
      refine ⟨?_, fun _ => ⟨hbeginning, Compiler.misses_of_finish hrun hcompile⟩,
        hstands⟩
      intro before token hfirst
      exact absurd hbeginning hfirst.not_isBeginning

/-- A sum in parentheses without its right operand, and one more operand. -/
def brokenSum : List Token :=
  [⟨.openParen, 0⟩, ⟨.operand "a", 1⟩, ⟨.operator .add, 2⟩, ⟨.closeParen, 3⟩,
    ⟨.operand "b", 4⟩]

/-- The parenthesis is found before the operand that cannot come either, and it
is not called unbalanced. -/
theorem brokenSum_first_fault :
    tokenize "(a+)b" = .ok brokenSum ∧
    compile "(a+)b" = .error (.unexpectedToken ")" 3) ∧
    (∀ before token, FirstHopeless brokenSum before token →
      Blames (before.map Token.lexeme) token (.unexpectedToken ")" 3)) ∧
    ∃ before token, FirstHopeless brokenSum before token := by
  have htokens : tokenize "(a+)b" = .ok brokenSum := by cbv
  have hfault : compile "(a+)b" = .error (.unexpectedToken ")" 3) := by cbv
  obtain ⟨hfirst, hlast, -⟩ :=
    compile_blames_first_fault htokens (List.cons_ne_nil _ _) hfault
  refine ⟨htokens, hfault, hfirst, ?_⟩
  by_contra hnone
  obtain ⟨-, hmisses⟩ := hlast hnone
  cases hmisses

end CounterTables.Formula
