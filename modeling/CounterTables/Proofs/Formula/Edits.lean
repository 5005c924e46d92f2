import Mathlib
import CounterTables.Proofs.Formula.Renderings
import CounterTables.Proofs.Formula.Tiling

/-!
# Layout and letter case

Formulas are laid out freely: letters may be of either case, blanks may be
widened, narrowed or exchanged, and around operators, around parentheses and at
the two ends of the formula they may come and go. An `Edit` is one such change,
and texts that a series of edits leads from one to the other are `Respelled`.

An edit that touches blanks changes a tail of the text, in front of which any
operand ends: neither a blank nor a symbol goes on with it, and the point of a
number is next to digits on both sides. So the front is cut as before
(`Spells.exchange`), although all offsets behind it move. The case of letters is
not seen by the scan at all.

## Main results

* `Spells.exchange` — a tail that ends operands can be exchanged.
* `hasLexemes_edit` — an edit keeps the lexemes.
* `compile_respelled` — respelled formulas compile alike.
-/

namespace CounterTables.Formula

open CounterTables.Formula.Expr (Derives)
open CounterTables.Text (forall_ascii isAsciiBlank)

/-! ## Edits -/

/-- A run of blanks, or none. -/
def IsGap (gap : List Char) : Prop :=
  ∀ c ∈ gap, isAsciiBlank c = true

/-- An operator or a parenthesis. -/
def IsSymbol (c : Char) : Prop :=
  ∃ lexeme, Lexeme.ofChar? c = some lexeme

/-- One change of layout or letter case. -/
inductive Edit : List Char → List Char → Prop
  /-- A letter is written in the other case. -/
  | letter {c d : Char} (front back : List Char) :
      c.toLower = d.toLower → Edit (front ++ c :: back) (front ++ d :: back)
  /-- A run of blanks becomes another one. -/
  | gap {gap other : List Char} (front back : List Char) :
      IsGap gap → IsGap other → gap ≠ [] → other ≠ [] →
      Edit (front ++ (gap ++ back)) (front ++ (other ++ back))
  | atStart {gap : List Char} (back : List Char) : IsGap gap → Edit back (gap ++ back)
  | atEnd {gap : List Char} (front : List Char) : IsGap gap → Edit front (front ++ gap)
  | beforeSymbol {gap : List Char} {c : Char} (front back : List Char) :
      IsGap gap → IsSymbol c → Edit (front ++ c :: back) (front ++ (gap ++ c :: back))
  | behindSymbol {gap : List Char} {c : Char} (front back : List Char) :
      IsGap gap → IsSymbol c → Edit (front ++ c :: back) (front ++ c :: (gap ++ back))

/-- The texts differ by edits, made or undone. -/
def Respelled : List Char → List Char → Prop :=
  Relation.EqvGen Edit

/-! ## Ends of operands -/

theorem stopsOperand_gap {gap : List Char} (h : IsGap gap) : StopsOperand gap := by
  cases gap with
  | nil => trivial
  | cons c gap => exact isNameChar_of_isAsciiBlank (h c List.mem_cons_self)

theorem StopsOperand.append {front back : List Char} (h : StopsOperand front)
    (hback : front = [] → StopsOperand back) : StopsOperand (front ++ back) := by
  cases front with
  | nil => exact hback rfl
  | cons c front => exact h

theorem stopsOperand_symbol {c : Char} (h : IsSymbol c) (back : List Char) :
    StopsOperand (c :: back) := by
  obtain ⟨lexeme, hlexeme⟩ := h
  have hascii := isAscii_of_ofChar? hlexeme
  have hsome : (Lexeme.ofChar? c).isSome = true := by rw [hlexeme]; rfl
  revert hsome
  exact forall_ascii
    (p := fun c => (Lexeme.ofChar? c).isSome = true → isNameChar c = false)
    (by decide) hascii

theorem StopsOperand.of_append {front back : List Char}
    (h : StopsOperand (front ++ back)) : StopsOperand front := by
  cases front with
  | nil => trivial
  | cons c front => exact h

/-! ## Spellings of a tail -/

namespace Spells

/-- A spelling starts with a blank, with an operand or with a symbol. -/
theorem cons_cases {c : Char} {back : List Char} {lexemes : List Lexeme}
    (h : Spells (c :: back) lexemes) :
    (isAsciiBlank c = true ∧ Spells back lexemes) ∨ isOperandChar c = true ∨
      ∃ lexeme rest, Lexeme.ofChar? c = some lexeme ∧ lexemes = lexeme :: rest ∧
        Spells back rest := by
  generalize htext : c :: back = cs at h
  cases h with
  | done => cases htext
  | blank hblank hback =>
      obtain ⟨rfl, rfl⟩ := List.cons.inj htext
      exact .inl ⟨hblank, hback⟩
  | @operand name rest lexemes hname _ _ =>
      obtain ⟨d, more, hd, hoperand⟩ := hname.exists_cons
      rw [hd, List.cons_append] at htext
      obtain ⟨rfl, -⟩ := List.cons.inj htext
      exact .inr (.inl hoperand)
  | symbol hlexeme hback =>
      obtain ⟨rfl, rfl⟩ := List.cons.inj htext
      exact .inr (.inr ⟨_, _, hlexeme, rfl, hback⟩)

theorem of_blank {c : Char} {back : List Char} {lexemes : List Lexeme}
    (h : Spells (c :: back) lexemes) (hc : isAsciiBlank c = true) :
    Spells back lexemes := by
  rcases h.cons_cases with ⟨-, hback⟩ | hoperand | ⟨lexeme, rest, hlexeme, -, -⟩
  · exact hback
  · exact absurd hc (not_isAsciiBlank_of_isOperandChar hoperand)
  · exact absurd hc (not_isAsciiBlank_of_ofChar? hlexeme)

theorem gap_append_iff {gap back : List Char} (hgap : IsGap gap)
    {lexemes : List Lexeme} : Spells (gap ++ back) lexemes ↔ Spells back lexemes := by
  refine ⟨fun h => ?_, spells_gap_append hgap⟩
  induction gap with
  | nil => exact h
  | cons c gap ih =>
      obtain ⟨hc, hgap⟩ := List.forall_mem_cons.1 hgap
      exact ih hgap (h.of_blank hc)

theorem symbol_cons_iff {c : Char} (hc : IsSymbol c) {back : List Char}
    {lexemes : List Lexeme} :
    Spells (c :: back) lexemes ↔ ∃ lexeme rest, Lexeme.ofChar? c = some lexeme ∧
      lexemes = lexeme :: rest ∧ Spells back rest := by
  constructor
  · intro h
    obtain ⟨lexeme, hlexeme⟩ := hc
    rcases h.cons_cases with ⟨hblank, -⟩ | hoperand | hsymbol
    · exact absurd hblank (not_isAsciiBlank_of_ofChar? hlexeme)
    · exact absurd hoperand (not_isOperandChar_of_ofChar? hlexeme)
    · exact hsymbol
  · rintro ⟨lexeme, rest, hlexeme, rfl, hback⟩
    exact .symbol hlexeme hback

/-- What comes before a tail is cut alike before another tail, if operands end
before both. -/
theorem exchange {front tail other : List Char} {lexemes : List Lexeme}
    (h : Spells (front ++ tail) lexemes) (htail : StopsOperand tail)
    (hother : StopsOperand other)
    (hsame : ∀ lexemes, Spells tail lexemes → Spells other lexemes) :
    Spells (front ++ other) lexemes := by
  generalize htext : front ++ tail = cs at h
  induction h generalizing front with
  | done =>
      obtain ⟨rfl, rfl⟩ := List.append_eq_nil_iff.1 htext
      exact hsame [] .done
  | @blank c rest lexemes hblank hrest ih =>
      cases front with
      | nil =>
          rw [List.nil_append] at htext
          exact hsame lexemes (htext ▸ .blank hblank hrest)
      | cons d front =>
          obtain ⟨rfl, hback⟩ := List.cons.inj htext
          exact .blank hblank (ih hback)
  | @operand name rest lexemes hname hstops hrest ih =>
      rcases List.append_eq_append_iff.1 htext with
        ⟨more, hmore, rfl⟩ | ⟨more, rfl, rfl⟩
      · -- the operand reaches up to the tail, and cannot go on in it
        cases more with
        | nil =>
            rw [List.append_nil] at hmore
            rw [← hmore]
            exact .operand hname hother (hsame lexemes hrest)
        | cons d more =>
            have hname := hname.isNameChar d (by simp [hmore])
            have hnot : isNameChar d = false := htail
            rw [hname] at hnot
            cases hnot
      · rw [List.append_assoc]
        exact .operand hname (hstops.of_append.append fun _ => hother) (ih rfl)
  | @symbol c rest lexeme lexemes hlexeme hrest ih =>
      cases front with
      | nil =>
          rw [List.nil_append] at htext
          exact hsame (lexeme :: lexemes) (htext ▸ .symbol hlexeme hrest)
      | cons d front =>
          obtain ⟨rfl, hback⟩ := List.cons.inj htext
          exact .symbol hlexeme (ih hback)

theorem exchange_iff {front tail other : List Char} {lexemes : List Lexeme}
    (htail : StopsOperand tail) (hother : StopsOperand other)
    (hsame : ∀ lexemes, Spells tail lexemes ↔ Spells other lexemes) :
    Spells (front ++ tail) lexemes ↔ Spells (front ++ other) lexemes :=
  ⟨fun h => h.exchange htail hother fun lexemes => (hsame lexemes).1,
    fun h => h.exchange hother htail fun lexemes => (hsame lexemes).2⟩

end Spells

/-! ## Lexemes of a text -/

/-- The text is cut into tokens that say this. -/
def HasLexemes (cs : List Char) (lexemes : List Lexeme) : Prop :=
  ∃ tokens, scan 0 [] cs = .ok tokens ∧ tokens.map Token.lexeme = lexemes

theorem hasLexemes_iff_spells {cs : List Char} {lexemes : List Lexeme} :
    HasLexemes cs lexemes ↔
      ∃ written, Spells cs written ∧ written.map Lexeme.lower = lexemes := by
  constructor
  · rintro ⟨tokens, htokens, rfl⟩
    obtain ⟨more, rfl, hscans⟩ := scans_of_scan htokens
    obtain ⟨written, hspells, hlexemes⟩ := exists_spells hscans
    exact ⟨written, hspells, hlexemes.symm⟩
  · rintro ⟨written, hspells, rfl⟩
    obtain ⟨tokens, hscans, hlexemes⟩ := hspells.exists_tokens 0
    exact ⟨tokens, hscans.scan_eq [], hlexemes⟩

theorem hasLexemes_congr {cs ds : List Char}
    (h : ∀ written, Spells cs written ↔ Spells ds written) (lexemes : List Lexeme) :
    HasLexemes cs lexemes ↔ HasLexemes ds lexemes := by
  simp only [hasLexemes_iff_spells, h]

/-- An edit leaves a text its lexemes, and a text without them gets none. -/
theorem hasLexemes_edit {cs ds : List Char} (h : Edit cs ds) :
    ∀ lexemes, HasLexemes cs lexemes ↔ HasLexemes ds lexemes := by
  cases h with
  | @letter c d front back hcase =>
      intro lexemes
      have hlower : (front ++ c :: back).map Char.toLower =
          (front ++ d :: back).map Char.toLower := by
        simp [hcase]
      rw [HasLexemes, ← scan_map_toLower, hlower, scan_map_toLower, HasLexemes]
  | @gap gap other front back hgap hother hne hne' =>
      have hstops : StopsOperand (gap ++ back) :=
        (stopsOperand_gap hgap).append fun hnil => absurd hnil hne
      have hstops' : StopsOperand (other ++ back) :=
        (stopsOperand_gap hother).append fun hnil => absurd hnil hne'
      refine hasLexemes_congr fun _ => Spells.exchange_iff hstops hstops' ?_
      intro lexemes
      rw [Spells.gap_append_iff hgap, Spells.gap_append_iff hother]
  | atStart back hgap =>
      exact hasLexemes_congr fun _ => (Spells.gap_append_iff hgap).symm
  | @atEnd gap _ hgap =>
      refine hasLexemes_congr fun written => ?_
      have hempty : ∀ lexemes, Spells [] lexemes ↔ Spells gap lexemes := by
        intro lexemes
        rw [← List.append_nil gap, Spells.gap_append_iff hgap]
      have hend :=
        @Spells.exchange_iff cs [] gap written trivial (stopsOperand_gap hgap) hempty
      rwa [List.append_nil] at hend
  | @beforeSymbol gap c front back hgap hc =>
      have hstops := stopsOperand_symbol hc back
      have hstops' := (stopsOperand_gap hgap).append fun _ => hstops
      exact hasLexemes_congr fun _ => Spells.exchange_iff hstops hstops'
        fun lexemes => (Spells.gap_append_iff hgap).symm
  | @behindSymbol gap c front back hgap hc =>
      refine hasLexemes_congr fun _ => Spells.exchange_iff (stopsOperand_symbol hc back)
        (stopsOperand_symbol hc (gap ++ back)) ?_
      intro lexemes
      simp only [Spells.symbol_cons_iff hc, Spells.gap_append_iff hgap]

theorem hasLexemes_respelled {cs ds : List Char} (h : Respelled cs ds) :
    ∀ lexemes, HasLexemes cs lexemes ↔ HasLexemes ds lexemes := by
  induction h with
  | rel cs ds hedit => exact hasLexemes_edit hedit
  | refl cs => exact fun _ => Iff.rfl
  | symm cs ds _ ih => exact fun lexemes => (ih lexemes).symm
  | trans cs ds es _ _ ih ih' => exact fun lexemes => (ih lexemes).trans (ih' lexemes)

/-! ## Compilation -/

/-- What a text is compiled to depends on its lexemes only. -/
theorem compile_eq_ok_iff_lexemes {source : String} {formula : Postfix} :
    compile source = .ok formula ↔
      ∃ lexemes tree, HasLexemes source.toList lexemes ∧ Derives .sum lexemes tree ∧
        formula.items = tree.postOrder := by
  rw [compile_eq_ok_iff]
  constructor
  · rintro ⟨tokens, tree, htokens, hderives, hitems⟩
    exact ⟨_, tree, ⟨tokens, htokens, rfl⟩, hderives, hitems⟩
  · rintro ⟨_, tree, ⟨tokens, htokens, rfl⟩, hderives, hitems⟩
    exact ⟨tokens, tree, htokens, hderives, hitems⟩

/-- **Layout and letter case do not count.** If edits lead from one formula to
the other, whatever their number and order, one is compiled just if the other
is, and then to the same. -/
theorem compile_respelled {source other : String}
    (h : Respelled source.toList other.toList) :
    ∀ formula, compile source = .ok formula ↔ compile other = .ok formula := by
  intro formula
  simp only [compile_eq_ok_iff_lexemes, hasLexemes_respelled h]

/-- One letter, one new gap on each side of the operator, a wider gap, and a
blank at the end. -/
theorem respelled_sum : Respelled "A+1.5".toList "a\t\t+\n1.5 ".toList := by
  have hspace : IsGap [' '] := by simp [IsGap, isAsciiBlank]
  have hlines : IsGap ['\n'] := by simp [IsGap, isAsciiBlank]
  have htabs : IsGap ['\t', '\t'] := by simp [IsGap, isAsciiBlank]
  have hplus : IsSymbol '+' := ⟨.operator .add, rfl⟩
  have hletter : Edit "A+1.5".toList "a+1.5".toList :=
    .letter [] ['+', '1', '.', '5'] rfl
  have hbefore : Edit "a+1.5".toList "a +1.5".toList :=
    .beforeSymbol ['a'] ['1', '.', '5'] hspace hplus
  have hbehind : Edit "a +1.5".toList "a +\n1.5".toList :=
    .behindSymbol ['a', ' '] ['1', '.', '5'] hlines hplus
  have hwider : Edit "a +\n1.5".toList "a\t\t+\n1.5".toList :=
    .gap ['a'] ['+', '\n', '1', '.', '5'] hspace htabs (by simp) (by simp)
  have hend : Edit "a\t\t+\n1.5".toList "a\t\t+\n1.5 ".toList := .atEnd _ hspace
  exact .trans _ _ _ (.rel _ _ hletter) (.trans _ _ _ (.rel _ _ hbefore)
    (.trans _ _ _ (.rel _ _ hbehind) (.trans _ _ _ (.rel _ _ hwider) (.rel _ _ hend))))

theorem compile_respelled_sum :
    Respelled "A+1.5".toList "a\t\t+\n1.5 ".toList ∧
    compile "a\t\t+\n1.5 " =
      .ok ⟨[.operand "a", .operand "1.5", .operator .add]⟩ := by
  have hcompile : compile "A+1.5" =
      .ok ⟨[.operand "a", .operand "1.5", .operator .add]⟩ := by cbv
  exact ⟨respelled_sum, (compile_respelled respelled_sum _).1 hcompile⟩

end CounterTables.Formula
