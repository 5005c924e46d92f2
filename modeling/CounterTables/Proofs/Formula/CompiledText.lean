import CounterTables.Proofs.Formula.Evaluation
import CounterTables.Proofs.Text.Words

/-!
# The text of a compiled formula

Tables hold the compiled form as text, with single spaces between the items.
Whoever evaluates it lower-cases the text, cuts it at blanks and tells operators
from operands by looking at each word alone. None of this changes a compiled
formula: its operands are written with characters of operands in lower case,
among which there is neither a blank nor an operator.

## Main results

* `readItems_text` — the text of readable items is read back.
* `evaluateText_compiled` — a compiled formula and its text have the same value.
-/

namespace CounterTables.Formula

open CounterTables.Text (forall_ascii isBlank isWords_intercalate words)

/-! ## Words -/

/-- Lower-casing words with spaces between them lower-cases each word. -/
theorem map_toLower_intercalate (parts : List (List Char)) :
    ([' '].intercalate parts).map Char.toLower =
      [' '].intercalate (parts.map (List.map Char.toLower)) := by
  induction parts with
  | nil => rfl
  | cons part rest ih =>
      cases rest with
      | nil => simp
      | cons next more =>
          rw [List.intercalate_cons_cons, List.map_append, List.map_append, ih]
          simp

/-! ## Items -/

/-- A character of operands is neither a blank nor an operator. -/
theorem isNameChar_excludes {c : Char} (h : isNameChar c = true) :
    isBlank c = false ∧ Operator.ofChar? c = none := by
  have hascii := isAscii_of_isNameChar h
  revert h
  exact forall_ascii
    (p := fun c => isNameChar c = true →
      isBlank c = false ∧ Operator.ofChar? c = none) (by decide) hascii

/-- An operand is not taken for an operator, not even one of one character. -/
theorem ofWord_name {name : String} (h : IsName name) :
    Item.ofWord name.toList = .operand name := by
  obtain ⟨hne, hchars⟩ := h
  unfold Item.ofWord
  split
  · rename_i c hname
    have hc := (hchars c (by simp [hname])).1
    rw [(isNameChar_excludes hc).2, ← hname, String.ofList_toList]
  · rw [String.ofList_toList]

/-- An item whose text is one word, in lower case, and read back as that
item. -/
structure Item.IsReadable (item : Item) : Prop where
  ne_nil : item.text.toList ≠ []
  not_blank : ∀ c ∈ item.text.toList, isBlank c = false
  lower : item.text.toList.map Char.toLower = item.text.toList
  ofWord : Item.ofWord item.text.toList = item

theorem isReadable_operator (op : Operator) : (Item.operator op).IsReadable where
  ne_nil := by cases op <;> decide
  not_blank := by
    intro c hc
    have hsymbol : c = op.symbol := by
      simpa [Item.text, Char.toString] using hc
    rw [hsymbol]
    cases op <;> rfl
  lower := by cases op <;> decide
  ofWord := by cases op <;> rfl

theorem isReadable_operand {name : String} (h : IsName name) :
    (Item.operand name).IsReadable where
  ne_nil := h.1
  not_blank := fun c hc => (isNameChar_excludes (h.2 c hc).1).1
  lower := by
    show name.toList.map Char.toLower = name.toList
    conv => rhs; rw [← List.map_id name.toList]
    exact List.map_congr_left fun c hc => (h.2 c hc).2
  ofWord := ofWord_name h

/-- The text of readable items is read back. -/
theorem readItems_text {items : List Item} (h : ∀ item ∈ items, item.IsReadable) :
    readItems (Postfix.mk items).text = items := by
  let parts := items.map fun item => item.text.toList
  have htext : (Postfix.mk items).text.toList = [' '].intercalate parts := by
    rw [Postfix.text, String.toList_intercalate, List.map_map]
    rfl
  have hlower : parts.map (List.map Char.toLower) = parts := by
    rw [List.map_map]
    exact List.map_congr_left fun item hitem => (h item hitem).lower
  have hwords : words ([' '].intercalate parts) = parts := by
    apply (isWords_intercalate _).words_eq
    intro part hpart
    obtain ⟨item, hitem, rfl⟩ := List.mem_map.1 hpart
    exact ⟨(h item hitem).ne_nil, (h item hitem).not_blank⟩
  rw [readItems, htext, map_toLower_intercalate, hlower, hwords, List.map_map]
  conv => rhs; rw [← List.map_id items]
  exact List.map_congr_left fun item hitem => (h item hitem).ofWord

theorem isReadable_of_compile {source : String} {formula : Postfix}
    (h : compile source = .ok formula) :
    ∀ item ∈ formula.items, item.IsReadable := by
  intro item hitem
  cases item with
  | operator op => exact isReadable_operator op
  | operand name =>
      apply isReadable_operand
      apply isName_of_mem_operands h
      rw [Postfix.operands, List.mem_filterMap]
      exact ⟨.operand name, hitem, rfl⟩

/-- **The text of a compiled formula stands for the formula.** Read back, it
gives the same items, so whatever the numbers and the lookup, both evaluate
alike, with a value or an error. -/
theorem evaluateText_compiled {source : String} {formula : Postfix}
    (h : compile source = .ok formula) :
    readItems formula.text = formula.items ∧
      ∀ {α : Type} (numbers : Arithmetic α) (lookup : String → Option α),
        evaluateText numbers lookup formula.text =
          evaluate numbers lookup formula := by
  have hread : readItems formula.text = formula.items :=
    readItems_text (isReadable_of_compile h)
  refine ⟨hread, ?_⟩
  intro α numbers lookup
  rw [evaluateText, hread, evaluate]

/-- A name of one character, a decimal literal and a name that starts with a
digit. -/
theorem evaluateText_compiled_short_names :
    ∃ formula, compile "X*0.5-2nd" = .ok formula ∧
      readItems formula.text = formula.items := by
  have hcompile : compile "X*0.5-2nd" = .ok
      ⟨[.operand "x", .operand "0.5", .operator .mul, .operand "2nd",
        .operator .sub]⟩ := by cbv
  exact ⟨_, hcompile, (evaluateText_compiled hcompile).1⟩

end CounterTables.Formula
