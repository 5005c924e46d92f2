import Mathlib
import CounterTables.Proofs.Formula.CompiledText
import CounterTables.Proofs.Formula.Spelling

/-!
# Renderings of trees

A tree can be written with parentheses around every operation, or with those
only that its grouping needs: around a left operand whose operator binds weaker,
and around a right operand whose operator does not bind tighter. The difference
between the two sides is that operators group to the left, so the right operand
has to be a phrase of a tighter level.

Each rendering is a sentence that denotes its tree, however it is spaced, so
both compile to the listing of the tree. Conversely the text of a listing is
read back to its items, and these belong to one tree: the compiled text forgets
no more of a formula than blanks, letter case and parentheses.

## Main results

* `Expr.derives_minimal`, `Expr.derives_full` — the renderings are sentences.
* `Expr.count_minimal_le` — no sentence for a tree has fewer parentheses.
* `spells_write` — a sentence can be written with any gap around operators.
* `renderings_compile_alike` — the renderings compile to the listing of the
  tree, and its text determines the tree.
-/

namespace CounterTables.Formula

open CounterTables.Formula.Expr (Level Derives enclose)
open CounterTables.Text (forall_ascii isAsciiBlank)

/-! ## Sentences for a tree -/

namespace Expr

/-- The tightest level at which the tree can be a phrase without parentheses. -/
def level : Expr → Level
  | operand _ => .factor
  | binary op _ _ => Level.ofOperator op

theorem strength_level (tree : Expr) : tree.level.strength = tree.strength := by
  cases tree with
  | operand name => rfl
  | binary op lhs rhs => exact Level.strength_ofOperator op

theorem Level.le_factor (level : Level) : level.strength ≤ Level.factor.strength := by
  cases level <;> decide

/-- With parentheses where the level is too tight, a phrase is one of the
level. -/
theorem derives_enclose {own level : Level} {lexemes : List Lexeme} {tree : Expr}
    (h : Derives own lexemes tree) {grouped : Bool}
    (hgrouped : grouped = false → level.strength ≤ own.strength) :
    Derives level (enclose grouped lexemes) tree := by
  cases grouped with
  | false => exact h.weaken (hgrouped rfl)
  | true =>
      have hinner : Derives .sum lexemes tree := h.weaken own.sum_le
      exact (Derives.group hinner).weaken level.le_factor

theorem derives_minimal (tree : Expr) : Derives tree.level tree.minimal tree := by
  induction tree with
  | operand name => exact .operand name
  | binary op lhs rhs ihLeft ihRight =>
      have hleft : Derives (Level.ofOperator op)
          (enclose (lhs.strength < op.precedence) lhs.minimal) lhs := by
        refine derives_enclose ihLeft fun hgrouped => ?_
        have hnot := of_decide_eq_false hgrouped
        rw [strength_level, Level.strength_ofOperator]
        omega
      have hright : Derives (Level.ofOperator op).tighter
          (enclose (rhs.strength ≤ op.precedence) rhs.minimal) rhs := by
        refine derives_enclose ihRight fun hgrouped => ?_
        have hnot := of_decide_eq_false hgrouped
        rw [strength_level, Level.strength_tighter_ofOperator]
        omega
      exact .binary op hleft hright

theorem derives_full (tree : Expr) : Derives .factor tree.full tree := by
  induction tree with
  | operand name => exact .operand name
  | binary op lhs rhs ihLeft ihRight =>
      have hjoined : Derives (Level.ofOperator op)
          (lhs.full ++ .operator op :: rhs.full) (binary op lhs rhs) :=
        .binary op (ihLeft.weaken (Level.le_factor _))
          (ihRight.weaken (Level.le_factor _))
      exact .group (hjoined.weaken (Level.sum_le _))

/-! ### Fewest parentheses -/

theorem count_enclose (grouped : Bool) (lexemes : List Lexeme) :
    (enclose grouped lexemes).count .openParen =
      lexemes.count .openParen + if grouped then 1 else 0 := by
  cases grouped with
  | false => rfl
  | true => simp [enclose]

/-- At any level a phrase has the parentheses of the rendering, and one pair
more if the tree is too loose for the level. -/
theorem count_enclose_minimal_le {level : Level} {lexemes : List Lexeme} {tree : Expr}
    (h : Derives level lexemes tree) :
    (enclose (tree.strength < level.strength) tree.minimal).count .openParen ≤
      lexemes.count .openParen := by
  induction h with
  | operand name => exact Nat.zero_le _
  | @group inner tree _ ih =>
      have hsum : ¬ tree.strength < Level.sum.strength := by
        have hle := tree.level.sum_le
        rw [strength_level] at hle
        omega
      simp only [count_enclose, hsum, decide_false] at ih
      rw [count_enclose, List.cons_append, List.count_cons_self, List.count_append]
      split <;> omega
  | @product lexemes tree _ ih =>
      refine Nat.le_trans ?_ ih
      simp only [count_enclose, decide_eq_true_eq]
      have hle : Level.product.strength ≤ Level.factor.strength := by decide
      repeat' split
      all_goals omega
  | @sum lexemes tree _ ih =>
      refine Nat.le_trans ?_ ih
      simp only [count_enclose, decide_eq_true_eq]
      have hle : Level.sum.strength ≤ Level.product.strength := by decide
      repeat' split
      all_goals omega
  | @binary op left right lhs rhs _ _ ihLeft ihRight =>
      have hself : ¬ (binary op lhs rhs).strength < (Level.ofOperator op).strength := by
        rw [Level.strength_ofOperator]
        exact Nat.lt_irrefl op.precedence
      rw [Level.strength_ofOperator] at ihLeft
      rw [Level.strength_tighter_ofOperator] at ihRight
      simp only [Nat.lt_succ_iff] at ihRight
      rw [count_enclose, decide_eq_false hself, minimal, List.count_append,
        List.count_append, List.count_cons, List.count_cons]
      show _ + (_ + 0) + 0 ≤ _ + (_ + 0)
      omega

/-- No sentence for a tree has fewer parentheses than its rendering. -/
theorem count_minimal_le {lexemes : List Lexeme} {tree : Expr}
    (h : Derives .sum lexemes tree) :
    tree.minimal.count .openParen ≤ lexemes.count .openParen := by
  have hle := count_enclose_minimal_le h
  rw [count_enclose] at hle
  omega

end Expr

/-! ## Writing sentences -/

/-- The characters of a lexeme, an operator with a gap on both sides. -/
def Lexeme.write (gap : List Char) : Lexeme → List Char
  | operand name => name.toList
  | operator op => gap ++ op.symbol :: gap
  | openParen => ['(']
  | closeParen => [')']

theorem isNameChar_of_isAsciiBlank {c : Char} (h : isAsciiBlank c = true) :
    isNameChar c = false := by
  have hascii := isAscii_of_isAsciiBlank h
  revert h
  exact forall_ascii
    (p := fun c => isAsciiBlank c = true → isNameChar c = false) (by decide) hascii

section Write

variable {gap : List Char} (hgap : ∀ c ∈ gap, isAsciiBlank c = true)

include hgap

theorem spells_gap_append {rest : List Char} {lexemes : List Lexeme}
    (h : Spells rest lexemes) : Spells (gap ++ rest) lexemes := by
  induction gap with
  | nil => exact h
  | cons c gap ih =>
      obtain ⟨hc, hgap⟩ := List.forall_mem_cons.1 hgap
      exact .blank hc (ih hgap)

/-- Where no operand is due, nothing is written that goes on with one. -/
theorem stopsOperand_write {lexemes : List Lexeme}
    (h : alternates false lexemes = true) :
    StopsOperand (lexemes.flatMap (Lexeme.write gap)) := by
  cases lexemes with
  | nil => trivial
  | cons lexeme rest =>
      rw [alternates, Bool.and_eq_true] at h
      cases lexeme with
      | operand name => cases h.1
      | openParen => cases h.1
      | closeParen => exact (by decide : isNameChar ')' = false)
      | operator op =>
          rw [List.flatMap_cons, Lexeme.write, List.append_assoc]
          cases gap with
          | nil =>
              show isNameChar op.symbol = false
              cases op <;> decide
          | cons c gap => exact isNameChar_of_isAsciiBlank (hgap c List.mem_cons_self)

/-- What is written for a sentence, or for the rest of one, spells it. -/
theorem spells_write {lexemes : List Lexeme} {due : Bool}
    (h : alternates due lexemes = true)
    (hnames : ∀ name ∈ operandsOf lexemes, IsOperand name.toList) :
    Spells (lexemes.flatMap (Lexeme.write gap)) lexemes := by
  induction lexemes generalizing due with
  | nil => exact .done
  | cons lexeme rest ih =>
      have hrest : ∀ name ∈ operandsOf rest, IsOperand name.toList := by
        intro name hname
        rw [mem_operandsOf_iff] at hname
        exact hnames name (mem_operandsOf_iff.2 (List.mem_cons_of_mem _ hname))
      rw [alternates, Bool.and_eq_true] at h
      rw [List.flatMap_cons]
      cases lexeme with
      | operand name =>
          have hname := hnames name (mem_operandsOf_iff.2 List.mem_cons_self)
          exact .operand hname (stopsOperand_write hgap h.2) (ih h.2 hrest)
      | operator op =>
          rw [Lexeme.write, List.append_assoc, List.cons_append]
          have hsymbol : Lexeme.ofChar? op.symbol = some (.operator op) := by
            cases op <;> rfl
          exact spells_gap_append hgap
            (.symbol hsymbol (spells_gap_append hgap (ih h.2 hrest)))
      | openParen => exact .symbol rfl (ih h.2 hrest)
      | closeParen => exact .symbol rfl (ih h.2 hrest)

end Write

/-! ## Renderings as text -/

namespace Expr

/-- The tree with the fewest parentheses, and spaces around operators. -/
def minimalText (tree : Expr) : String :=
  String.ofList (tree.minimal.flatMap (Lexeme.write [' ']))

/-- The tree with all parentheses and no space. -/
def fullText (tree : Expr) : String :=
  String.ofList (tree.full.flatMap (Lexeme.write []))

end Expr

/-- A sentence for a tree is compiled to the listing of the tree, whatever the
blanks and the letter case. -/
theorem compile_of_spells {source : String} {lexemes : List Lexeme} {tree : Expr}
    (hspells : Spells source.toList lexemes) (h : Derives .sum lexemes tree) :
    compile source = .ok ⟨(tree.mapNames lowerName).postOrder⟩ :=
  compile_eq_ok_iff_denotes.2 ⟨tree, ⟨lexemes, hspells, h⟩, rfl⟩

theorem compile_write {gap : List Char} (hgap : ∀ c ∈ gap, isAsciiBlank c = true)
    {lexemes : List Lexeme} {tree : Expr} (h : Derives .sum lexemes tree)
    (hnames : ∀ name ∈ tree.names, IsOperand name.toList) :
    compile (String.ofList (lexemes.flatMap (Lexeme.write gap))) =
      .ok ⟨(tree.mapNames lowerName).postOrder⟩ := by
  rw [← h.operands_eq] at hnames
  have hspells := spells_write hgap h.alternates hnames
  refine compile_of_spells ?_ h
  rwa [String.toList_ofList]

/-- The compiled text determines the tree up to letter case. -/
theorem same_tree_of_text_eq {source other : String} {formula formula' : Postfix}
    (h : compile source = .ok formula) (h' : compile other = .ok formula')
    (htext : formula.text = formula'.text) {tree tree' : Expr}
    (htree : Denotes source tree) (htree' : Denotes other tree') :
    tree.mapNames lowerName = tree'.mapNames lowerName := by
  have hitems : formula.items = formula'.items := by
    rw [← readItems_text (isReadable_of_compile h),
      ← readItems_text (isReadable_of_compile h'), htext]
  obtain ⟨found, hfound, hlisting⟩ := compile_eq_ok_iff_denotes.1 h
  obtain ⟨found', hfound', hlisting'⟩ := compile_eq_ok_iff_denotes.1 h'
  rw [hlisting, hlisting'] at hitems
  rw [htree.unique hfound, htree'.unique hfound']
  exact Expr.postOrder_injective hitems

/-- **The renderings of a tree compile alike, and their compiled text says which
tree it is.** For every tree of identifiers and numbers, the text with the
fewest parentheses and the one with all of them compile to the listing of the
tree in lower case, and so does every other spelling of the two; and indeed no
sentence for the tree has fewer parentheses than the first. Any two sources with
the same compiled text stand for one tree, up to letter case. -/
theorem renderings_compile_alike :
    (∀ tree : Expr, (∀ name ∈ tree.names, IsOperand name.toList) →
      compile tree.minimalText = .ok ⟨(tree.mapNames lowerName).postOrder⟩ ∧
      compile tree.fullText = .ok ⟨(tree.mapNames lowerName).postOrder⟩ ∧
      (∀ source, Spells source.toList tree.minimal ∨ Spells source.toList tree.full →
        compile source = .ok ⟨(tree.mapNames lowerName).postOrder⟩) ∧
      ∀ lexemes, Derives .sum lexemes tree →
        tree.minimal.count .openParen ≤ lexemes.count .openParen) ∧
    (∀ source other formula formula', compile source = .ok formula →
      compile other = .ok formula' → formula.text = formula'.text →
        (∃ tree, Denotes source tree) ∧ (∃ tree, Denotes other tree) ∧
        ∀ tree tree', Denotes source tree → Denotes other tree' →
          tree.mapNames lowerName = tree'.mapNames lowerName) := by
  constructor
  · intro tree hnames
    have hminimal : Derives .sum tree.minimal tree :=
      tree.derives_minimal.weaken (Level.sum_le _)
    have hfull : Derives .sum tree.full tree :=
      tree.derives_full.weaken (Level.sum_le _)
    have hspace : ∀ c ∈ [' '], isAsciiBlank c = true := by simp [isAsciiBlank]
    have hnone : ∀ c ∈ [], isAsciiBlank c = true := List.forall_mem_nil _
    refine ⟨?_, ?_, ?_, fun _ => Expr.count_minimal_le⟩
    · exact compile_write hspace hminimal hnames
    · exact compile_write hnone hfull hnames
    · rintro source (hspells | hspells)
      · exact compile_of_spells hspells hminimal
      · exact compile_of_spells hspells hfull
  · intro source other formula formula' h h' htext
    obtain ⟨tree, htree, -⟩ := compile_eq_ok_iff_denotes.1 h
    obtain ⟨tree', htree', -⟩ := compile_eq_ok_iff_denotes.1 h'
    exact ⟨⟨tree, htree⟩, ⟨tree', htree'⟩,
      fun _ _ => same_tree_of_text_eq h h' htext⟩

/-- A difference of a product and a difference, over a capital, a decimal number
and a name that starts with a digit. -/
def mixedTree : Expr :=
  .binary .sub (.binary .mul (.operand "A") (.operand "0.5"))
    (.binary .sub (.operand "b") (.operand "2nd"))

theorem mixedTree_renderings :
    mixedTree.minimalText = "A * 0.5 - (b - 2nd)" ∧
    mixedTree.fullText = "((A*0.5)-(b-2nd))" ∧
    compile "A * 0.5 - (b - 2nd)" = compile "((A*0.5)-(b-2nd))" := by
  have hdigits : ∀ c ∈ ['0'] ++ ['5'], isOperandChar c = true := by simp [isOperandChar]
  have hdecimal : IsOperand "0.5".toList := .decimal rfl rfl hdigits
  have hword : ∀ name ∈ ["A", "b", "2nd"], IsOperand name.toList := by
    intro name hname
    have hchars : ∀ name ∈ ["A", "b", "2nd"],
        name.toList ≠ [] ∧ name.toList.all isOperandChar = true := by
      decide
    obtain ⟨hne, hall⟩ := hchars name hname
    exact .word hne (List.all_eq_true.1 hall)
  have hnames : ∀ name ∈ mixedTree.names, IsOperand name.toList := by
    intro name hname
    have hcases : name = "0.5" ∨ name ∈ ["A", "b", "2nd"] := by
      simpa [mixedTree, Expr.names, or_left_comm] using hname
    rcases hcases with rfl | hname
    · exact hdecimal
    · exact hword name hname
  obtain ⟨hminimal, hfull, -⟩ := renderings_compile_alike.1 mixedTree hnames
  have htext : mixedTree.minimalText = "A * 0.5 - (b - 2nd)" := by rfl
  have htextFull : mixedTree.fullText = "((A*0.5)-(b-2nd))" := by rfl
  refine ⟨htext, htextFull, ?_⟩
  rw [← htext, ← htextFull, hminimal, hfull]

end CounterTables.Formula
