import CounterTables.Proofs.Formula.Compilation
import CounterTables.Proofs.Formula.Scan
import CounterTables.Proofs.Formula.StackMachine

/-!
# What is compiled, and to what

The scan and the compiler together: a source is compiled if and only if its
tokens are a sentence of the grammar, and its compiled form is the post-order
listing of the one tree that the sentence denotes.

The grammar is unambiguous because the compiler is a function: two trees of one
sentence have the same listing, and a listing belongs to one tree.

## Main results

* `compile_eq_ok_iff` — the compiled form of a source.
* `Derives.unique` — a sentence denotes one tree.
* `compile_accepts_sentences` — acceptance, result and rejection.
-/

namespace CounterTables.Formula

open CounterTables.Formula.Expr (Level Derives)

/-- The compiled form of a source is the listing of a tree that its tokens
denote. -/
theorem compile_eq_ok_iff {source : String} {formula : Postfix} :
    compile source = .ok formula ↔
      ∃ tokens tree, tokenize source = .ok tokens ∧
        Derives .sum (tokens.map Token.lexeme) tree ∧
        formula.items = tree.postOrder := by
  rw [compile]
  constructor
  · intro h
    cases htokens : tokenize source with
    | error fault => simp [htokens] at h
    | ok tokens =>
        simp only [htokens] at h
        obtain ⟨tree, hderives, hitems⟩ := compileTokens_eq_ok_iff.1 h
        exact ⟨tokens, tree, rfl, hderives, hitems⟩
  · rintro ⟨tokens, tree, htokens, hderives, hitems⟩
    simp only [htokens]
    exact compileTokens_eq_ok_iff.2 ⟨tree, hderives, hitems⟩

/-- Operators of one level group to the left, and parentheses are gone. -/
example : compile "A - b*2 - (c + d)" = .ok
    ⟨[.operand "a", .operand "b", .operand "2", .operator .mul,
      .operator .sub, .operand "c", .operand "d", .operator .add,
      .operator .sub]⟩ := by cbv

/-- A sentence denotes one tree. -/
theorem Expr.Derives.unique {lexemes : List Lexeme} {tree other : Expr}
    (htree : Derives .sum lexemes tree) (hother : Derives .sum lexemes other) :
    tree = other := by
  rw [← lexemes_placed lexemes] at htree hother
  have hcompiled : compileTokens 0 (placed lexemes) = .ok ⟨tree.postOrder⟩ :=
    compileTokens_eq_ok_iff.2 ⟨tree, htree, rfl⟩
  have hagain : compileTokens 0 (placed lexemes) = .ok ⟨other.postOrder⟩ :=
    compileTokens_eq_ok_iff.2 ⟨other, hother, rfl⟩
  have hformula := Except.ok.inj (hcompiled.symm.trans hagain)
  exact Expr.postOrder_injective (Postfix.mk.inj hformula)

/-- Every operand of a compiled formula was read as a token. -/
theorem isName_of_mem_operands {source : String} {formula : Postfix}
    (h : compile source = .ok formula) {name : String}
    (hmem : name ∈ formula.operands) : IsName name := by
  obtain ⟨tokens, tree, htokens, hderives, hitems⟩ := compile_eq_ok_iff.1 h
  obtain ⟨items⟩ := formula
  obtain rfl : items = tree.postOrder := hitems
  rw [Expr.operands_postOrder, ← hderives.operands_eq, mem_operandsOf_iff] at hmem
  obtain ⟨⟨lexeme, position⟩, htoken, rfl⟩ := List.mem_map.1 hmem
  exact (scans_of_tokenize htokens).isName htoken

/-- **The compiler recognises the grammar.** A source is compiled exactly when
its tokens are a sentence, to the listing of the tree of that sentence, and that
tree is the only one; the operands are the operands of the source in lower case.
Tokens are refused exactly when operands and operators do not alternate or
parentheses do not match, and a character that formulas are not written with is
refused before that. -/
theorem compile_accepts_sentences (source : String) :
    (∀ formula, compile source = .ok formula ↔
      ∃ tokens tree, tokenize source = .ok tokens ∧
        Derives .sum (tokens.map Token.lexeme) tree ∧
        formula.items = tree.postOrder) ∧
    (∀ tokens, tokenize source = .ok tokens →
      (∀ tree other, Derives .sum (tokens.map Token.lexeme) tree →
        Derives .sum (tokens.map Token.lexeme) other → tree = other) ∧
      (∀ name position, ⟨.operand name, position⟩ ∈ tokens →
        name = asciiLower
          ((source.toList.drop position).take name.length)) ∧
      ((∃ fault, compile source = .error fault) ↔
        ¬ (alternates true (tokens.map Token.lexeme) = true ∧
          balances 0 (tokens.map Token.lexeme) = true))) ∧
    (∀ fault, tokenize source = .error fault →
      compile source = .error fault) ∧
    (∀ c ∈ source.toList, isFormulaChar c = false →
      ∃ fault, tokenize source = .error fault) := by
  refine ⟨fun formula => compile_eq_ok_iff, ?_, ?_, ?_⟩
  · intro tokens htokens
    refine ⟨fun tree other htree hother => htree.unique hother, ?_, ?_⟩
    · intro name position hmem
      exact (scans_of_tokenize htokens).operand_text hmem
    · rw [← exists_derives_iff]
      cases hcompile : compile source with
      | ok formula =>
          obtain ⟨others, tree, hothers, hderives, -⟩ :=
            compile_eq_ok_iff.1 hcompile
          obtain rfl := Except.ok.inj (htokens.symm.trans hothers)
          refine iff_of_false ?_ fun hnone => hnone ⟨tree, hderives⟩
          rintro ⟨fault, hfault⟩
          cases hfault
      | error fault =>
          refine iff_of_true ⟨fault, rfl⟩ ?_
          rintro ⟨tree, hderives⟩
          have hok : compile source = .ok ⟨tree.postOrder⟩ :=
            compile_eq_ok_iff.2 ⟨tokens, tree, htokens, hderives, rfl⟩
          rw [hcompile] at hok
          cases hok
  · intro fault hfault
    rw [compile, hfault]
  · intro c hc hchar
    cases htokens : tokenize source with
    | ok tokens =>
        have htrue := (scans_of_tokenize htokens).isFormulaChar c hc
        rw [hchar] at htrue
        cases htrue
    | error fault => exact ⟨fault, rfl⟩

end CounterTables.Formula
