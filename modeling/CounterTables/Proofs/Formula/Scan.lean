import Mathlib
import CounterTables.Formula.Expr
import CounterTables.Text.Letter

/-!
# What the scan of a formula finds

`Scans position cs tokens` is the scan without its accumulator: one rule for
each way in which the scan goes on. A scan that succeeds is a derivation of this
relation, so a fact about all tokens of a formula is one induction with three
short cases.

Every character that a successful scan passes is ASCII, and no step of the scan
tells a capital from the small letter. So the tokens of a formula are those of
the formula in lower case, and for an accepted formula the full case map of
Unicode is the one the scan applies to its operands.

## Main results

* `tokenize_eq_ok_iff` — the tokens of a formula are what `Scans` derives.
* `Scans.operand_at` — where an operand starts and how far it reaches.
* `Scans.operand_text` — an operand is its part of the source in lower case.
* `Scans.isName` — the characters of an operand.
* `Scans.isFormulaChar`, `Scans.isAscii` — the characters of an accepted
  formula.
* `scan_map_toLower` — the scan does not see the case of letters.
-/

namespace CounterTables.Formula

open CounterTables.Text (forall_ascii isAsciiBlank lowerText lower_of_ascii)

/-! ## Characters -/

theorem toLower_of_not_ascii {c : Char} (h : 128 ≤ c.toNat) :
    c.toLower = c := by
  have hupper : ¬ (c.val ≥ 'A'.val ∧ c.val ≤ 'Z'.val) := by
    rintro ⟨-, hle⟩
    have : c.toNat ≤ 90 := hle
    omega
  rw [Char.toLower, dif_neg hupper]

/-- A property of characters that lower-casing keeps, checked on ASCII. -/
theorem toLower_eq_of_ascii {α : Type} (f : Char → α)
    (h : ∀ n < 128, f (Char.ofNat n).toLower = f (Char.ofNat n)) (c : Char) :
    f c.toLower = f c := by
  by_cases hc : c.toNat < 128
  · exact forall_ascii (p := fun c => f c.toLower = f c) h hc
  · rw [toLower_of_not_ascii (Nat.le_of_not_lt hc)]

@[simp] theorem isAsciiBlank_toLower (c : Char) :
    isAsciiBlank c.toLower = isAsciiBlank c :=
  toLower_eq_of_ascii isAsciiBlank (by decide) c

@[simp] theorem isOperandChar_toLower (c : Char) :
    isOperandChar c.toLower = isOperandChar c :=
  toLower_eq_of_ascii isOperandChar (by decide) c

@[simp] theorem isDigit_toLower (c : Char) : c.toLower.isDigit = c.isDigit :=
  toLower_eq_of_ascii Char.isDigit (by decide) c

@[simp] theorem isPoint_toLower (c : Char) :
    (c.toLower == '.') = (c == '.') :=
  toLower_eq_of_ascii (· == '.') (by decide) c

@[simp] theorem ofChar?_toLower (c : Char) :
    Lexeme.ofChar? c.toLower = Lexeme.ofChar? c :=
  toLower_eq_of_ascii Lexeme.ofChar? (by decide) c

@[simp] theorem toLower_toLower (c : Char) : c.toLower.toLower = c.toLower :=
  toLower_eq_of_ascii Char.toLower (by decide) c

theorem isAscii_of_isAsciiBlank {c : Char} (h : isAsciiBlank c = true) :
    c.toNat < 128 := by
  simp only [isAsciiBlank, Bool.or_eq_true, beq_iff_eq] at h
  rcases h with (((rfl | rfl) | rfl) | rfl) | rfl <;> decide

theorem isAscii_of_isOperandChar {c : Char} (h : isOperandChar c = true) :
    c.toNat < 128 := by
  simp only [isOperandChar, Char.isAlphanum, Char.isAlpha, Char.isUpper,
    Char.isLower, Char.isDigit, Bool.or_eq_true, Bool.and_eq_true,
    decide_eq_true_eq, beq_iff_eq, UInt32.le_iff_toNat_le] at h
  rcases h with ((⟨-, hle⟩ | ⟨-, hle⟩) | ⟨-, hle⟩) | rfl
  · exact Nat.lt_of_le_of_lt hle (by decide)
  · exact Nat.lt_of_le_of_lt hle (by decide)
  · exact Nat.lt_of_le_of_lt hle (by decide)
  · decide

theorem isAscii_of_ofChar? {c : Char} {lexeme : Lexeme}
    (h : Lexeme.ofChar? c = some lexeme) : c.toNat < 128 := by
  unfold Lexeme.ofChar? at h
  split at h
  · subst c; decide
  split at h
  · subst c; decide
  obtain ⟨op, hop, -⟩ := Option.map_eq_some_iff.1 h
  rw [Operator.ofChar?_eq_some_iff.1 hop]
  cases op <;> decide

/-- Lower-casing changes characters of operands only. -/
theorem toLower_of_not_operandChar {c : Char} (h : ¬ isOperandChar c = true) :
    c.toLower = c := by
  by_cases hc : c.toNat < 128
  · revert h
    exact forall_ascii
      (p := fun c => ¬ isOperandChar c = true → c.toLower = c) (by decide) hc
  · exact toLower_of_not_ascii (Nat.le_of_not_lt hc)

/-- The lexeme of a single character is never an operand. -/
theorem ofChar?_ne_operand (c : Char) (name : String) :
    Lexeme.ofChar? c ≠ some (.operand name) := by
  unfold Lexeme.ofChar?
  split
  · simp
  split
  · simp
  · simp [Option.map_eq_some_iff]

/-- The three kinds of characters that a scan tells apart exclude each other. -/
theorem not_isAsciiBlank_of_isOperandChar {c : Char}
    (h : isOperandChar c = true) : ¬ isAsciiBlank c = true := by
  have hascii := isAscii_of_isOperandChar h
  revert h
  exact forall_ascii
    (p := fun c => isOperandChar c = true → ¬ isAsciiBlank c = true)
    (by decide) hascii

theorem not_isAsciiBlank_of_ofChar? {c : Char} {lexeme : Lexeme}
    (h : Lexeme.ofChar? c = some lexeme) : ¬ isAsciiBlank c = true := by
  have hascii := isAscii_of_ofChar? h
  have hsome : (Lexeme.ofChar? c).isSome = true := by rw [h]; rfl
  revert hsome
  exact forall_ascii
    (p := fun c => (Lexeme.ofChar? c).isSome = true → ¬ isAsciiBlank c = true)
    (by decide) hascii

theorem not_isOperandChar_of_ofChar? {c : Char} {lexeme : Lexeme}
    (h : Lexeme.ofChar? c = some lexeme) : ¬ isOperandChar c = true := by
  have hascii := isAscii_of_ofChar? h
  have hsome : (Lexeme.ofChar? c).isSome = true := by rw [h]; rfl
  revert hsome
  exact forall_ascii
    (p := fun c => (Lexeme.ofChar? c).isSome = true → ¬ isOperandChar c = true)
    (by decide) hascii

/-! ## Operands -/

/-- The characters of operands: a point may come between digits. -/
def isNameChar (c : Char) : Bool :=
  isOperandChar c || c == '.'

theorem isAscii_of_isNameChar {c : Char} (h : isNameChar c = true) :
    c.toNat < 128 := by
  rcases Bool.or_eq_true_iff.1 h with hoperand | hpoint
  · exact isAscii_of_isOperandChar hoperand
  · rw [beq_iff_eq.1 hpoint]
    decide

@[simp] theorem isNameChar_toLower (c : Char) :
    isNameChar c.toLower = isNameChar c := by
  simp [isNameChar]

/-- The characters that formulas are written with. -/
def isFormulaChar (c : Char) : Bool :=
  isAsciiBlank c || isNameChar c || (Lexeme.ofChar? c).isSome

theorem isAscii_of_isFormulaChar {c : Char} (h : isFormulaChar c = true) :
    c.toNat < 128 := by
  simp only [isFormulaChar, Bool.or_eq_true] at h
  rcases h with (hblank | hname) | hsymbol
  · exact isAscii_of_isAsciiBlank hblank
  · exact isAscii_of_isNameChar hname
  · obtain ⟨lexeme, hlexeme⟩ := Option.isSome_iff_exists.1 hsymbol
    exact isAscii_of_ofChar? hlexeme

/-- The text of an operand as the scan leaves it: not empty, and of characters
that lower-casing keeps. -/
def IsName (name : String) : Prop :=
  name.toList ≠ [] ∧
    ∀ c ∈ name.toList, isNameChar c = true ∧ c.toLower = c

theorem isName_asciiLower {cs : List Char} (hne : cs ≠ [])
    (h : ∀ c ∈ cs, isNameChar c = true) : IsName (asciiLower cs) := by
  refine ⟨by simpa [asciiLower] using hne, ?_⟩
  intro c hc
  rw [asciiLower, String.toList_ofList] at hc
  obtain ⟨d, hd, rfl⟩ := List.mem_map.1 hc
  exact ⟨by rw [isNameChar_toLower, h d hd], toLower_toLower d⟩

/-- The count is added to the number of characters that go on. -/
theorem operandLength_eq_add (point : Bool) (count : Nat) (cs : List Char) :
    operandLength point count cs = count + operandLength point 0 cs := by
  induction cs generalizing point count with
  | nil => rfl
  | cons c rest ih =>
      simp only [operandLength]
      rw [ih point (count + 1), ih point (0 + 1), ih false (count + 1),
        ih false (0 + 1)]
      repeat' split
      all_goals omega

theorem operandLength_le (point : Bool) (cs : List Char) :
    operandLength point 0 cs ≤ cs.length := by
  induction cs generalizing point with
  | nil => simp [operandLength]
  | cons c rest ih =>
      rw [operandLength, operandLength_eq_add point,
        operandLength_eq_add false, List.length_cons]
      have hpoint := ih point
      have hno := ih false
      repeat' split
      all_goals omega

/-- All characters that continue an operand are characters of operands. -/
theorem isNameChar_of_mem_take (point : Bool) (cs : List Char) :
    ∀ c ∈ cs.take (operandLength point 0 cs), isNameChar c = true := by
  induction cs generalizing point with
  | nil => simp
  | cons c rest ih =>
      rw [operandLength]
      split
      · rename_i hoperand
        rw [operandLength_eq_add, Nat.add_comm, List.take_succ_cons]
        intro d hd
        rcases List.mem_cons.1 hd with rfl | hd
        · simp [isNameChar, hoperand]
        · exact ih point d hd
      split
      · rename_i hpoint
        rw [operandLength_eq_add, Nat.add_comm, List.take_succ_cons]
        intro d hd
        rcases List.mem_cons.1 hd with rfl | hd
        · simp only [Bool.and_eq_true] at hpoint
          simp [isNameChar, hpoint.1.2]
        · exact ih false d hd
      · simp

/-- The case of letters does not change how far an operand reaches. -/
theorem operandLength_map_toLower (point : Bool) (count : Nat)
    (cs : List Char) :
    operandLength point count (cs.map Char.toLower) =
      operandLength point count cs := by
  induction cs generalizing point count with
  | nil => rfl
  | cons c rest ih =>
      have hdigit : startsWithDigit (rest.map Char.toLower) =
          startsWithDigit rest := by
        cases rest with
        | nil => rfl
        | cons d _ => exact isDigit_toLower d
      rw [List.map_cons, operandLength, operandLength]
      simp only [isOperandChar_toLower, isPoint_toLower, hdigit, ih]

theorem length_asciiLower (cs : List Char) :
    (asciiLower cs).length = cs.length := by
  simp [asciiLower]

theorem asciiLower_map_toLower (cs : List Char) :
    asciiLower (cs.map Char.toLower) = asciiLower cs := by
  simp [asciiLower, Function.comp_def]

/-! ## The scan as a relation -/

/-- From the offset `position` on, the characters are cut into the tokens. -/
inductive Scans : Nat → List Char → List Token → Prop
  | done (position : Nat) : Scans position [] []
  /-- A blank belongs to no token. -/
  | blank {position : Nat} {c : Char} {rest : List Char} {tokens : List Token} :
      isAsciiBlank c = true →
      Scans (position + 1) rest tokens →
      Scans position (c :: rest) tokens
  /-- An operand reaches as far as it can. -/
  | operand {position more : Nat} {c : Char} {rest : List Char}
      {tokens : List Token} :
      isOperandChar c = true →
      more = operandLength c.isDigit 0 rest →
      Scans (position + 1 + more) (rest.drop more) tokens →
      Scans position (c :: rest)
        (⟨.operand (asciiLower (c :: rest.take more)), position⟩ :: tokens)
  /-- An operator or a parenthesis is one character. -/
  | symbol {position : Nat} {c : Char} {rest : List Char} {lexeme : Lexeme}
      {tokens : List Token} :
      Lexeme.ofChar? c = some lexeme →
      Scans (position + 1) rest tokens →
      Scans position (c :: rest) (⟨lexeme, position⟩ :: tokens)

/-- A scan that succeeds adds the tokens of what remains. -/
theorem scans_of_scan {position : Nat} {found tokens : List Token}
    {cs : List Char} (h : scan position found cs = .ok tokens) :
    ∃ more, tokens = found.reverse ++ more ∧ Scans position cs more := by
  fun_induction scan position found cs with
  | case1 position found =>
      exact ⟨[], by simpa using (Except.ok.inj h).symm, .done position⟩
  | case2 position found c rest hblank ih =>
      obtain ⟨more, htokens, hscans⟩ := ih h
      exact ⟨more, htokens, .blank hblank hscans⟩
  | case3 position found c rest hblank hoperand more operand ih =>
      obtain ⟨later, htokens, hscans⟩ := ih h
      exact ⟨operand :: later, by simpa using htokens,
        .operand hoperand rfl hscans⟩
  | case4 position found c rest hblank hoperand lexeme hlexeme ih =>
      obtain ⟨later, htokens, hscans⟩ := ih h
      exact ⟨⟨lexeme, position⟩ :: later, by simpa using htokens,
        .symbol hlexeme hscans⟩
  | case5 position found c rest hblank hoperand hlexeme => cases h

/-- The tokens of an accepted formula. -/
theorem scans_of_tokenize {source : String} {tokens : List Token}
    (h : tokenize source = .ok tokens) : Scans 0 source.toList tokens := by
  obtain ⟨more, rfl, hscans⟩ := scans_of_scan h
  exact hscans

/-- Tokens that are derived are what the scan adds to those already found. -/
theorem Scans.scan_eq {position : Nat} {cs : List Char} {more : List Token}
    (h : Scans position cs more) (found : List Token) :
    scan position found cs = .ok (found.reverse ++ more) := by
  induction h generalizing found with
  | done position => rw [scan, List.append_nil]
  | blank hblank _ ih => rw [scan, if_pos hblank, ih]
  | @operand position more c rest tokens hoperand hmore _ ih =>
      have hblank := not_isAsciiBlank_of_isOperandChar hoperand
      rw [scan, if_neg hblank, if_pos hoperand]
      simp only [← hmore]
      rw [ih, List.reverse_cons, List.append_assoc, List.singleton_append]
  | @symbol position c rest lexeme tokens hlexeme _ ih =>
      have hblank := not_isAsciiBlank_of_ofChar? hlexeme
      have hoperand := not_isOperandChar_of_ofChar? hlexeme
      rw [scan, if_neg hblank, if_neg hoperand, hlexeme]
      simp only
      rw [ih, List.reverse_cons, List.append_assoc, List.singleton_append]

theorem tokenize_eq_ok_iff {source : String} {tokens : List Token} :
    tokenize source = .ok tokens ↔ Scans 0 source.toList tokens :=
  ⟨scans_of_tokenize, fun h => h.scan_eq []⟩

namespace Scans

/-- Where an operand starts there is a character of operands, and it reaches as
far as such characters go. -/
theorem operand_at {start : Nat} {cs : List Char} {tokens : List Token}
    (h : Scans start cs tokens) {name : String} {position : Nat}
    (hmem : ⟨.operand name, position⟩ ∈ tokens) :
    start ≤ position ∧ ∃ c rest, cs.drop (position - start) = c :: rest ∧
      isOperandChar c = true ∧
      name = asciiLower (c :: rest.take (operandLength c.isDigit 0 rest)) := by
  induction h with
  | done start => cases hmem
  | @blank start c rest tokens hblank _ ih =>
      obtain ⟨hle, hat⟩ := ih hmem
      refine ⟨by omega, ?_⟩
      rw [show position - start = position - (start + 1) + 1 by omega]
      exact hat
  | @operand start more c rest tokens hoperand hmore _ ih =>
      rcases List.mem_cons.1 hmem with heq | hmem
      · obtain ⟨hname, rfl⟩ := Token.mk.inj heq
        refine ⟨Nat.le_refl _, c, rest, ?_, hoperand, ?_⟩
        · rw [Nat.sub_self, List.drop_zero]
        · rw [Lexeme.operand.inj hname, hmore]
      · obtain ⟨hle, hat⟩ := ih hmem
        refine ⟨by omega, ?_⟩
        rw [show position - start =
          more + (position - (start + 1 + more)) + 1 by omega,
          List.drop_succ_cons, ← List.drop_drop]
        exact hat
  | @symbol start c rest lexeme tokens hlexeme _ ih =>
      rcases List.mem_cons.1 hmem with heq | hmem
      · obtain ⟨rfl, -⟩ := Token.mk.inj heq
        exact absurd hlexeme (ofChar?_ne_operand c name)
      · obtain ⟨hle, hat⟩ := ih hmem
        refine ⟨by omega, ?_⟩
        rw [show position - start = position - (start + 1) + 1 by omega]
        exact hat

/-- An operand is the part of the source where it starts, in lower case. -/
theorem operand_text {start : Nat} {cs : List Char} {tokens : List Token}
    (h : Scans start cs tokens) {name : String} {position : Nat}
    (hmem : ⟨.operand name, position⟩ ∈ tokens) :
    name = asciiLower ((cs.drop (position - start)).take name.length) := by
  obtain ⟨-, c, rest, hdrop, -, hname⟩ := h.operand_at hmem
  have hlength : name.length = operandLength c.isDigit 0 rest + 1 := by
    rw [hname, length_asciiLower, List.length_cons, List.length_take,
      Nat.min_eq_left (operandLength_le c.isDigit rest)]
  rw [hdrop, hlength, List.take_succ_cons]
  exact hname

/-- An operand consists of characters of operands in lower case. -/
theorem isName {start : Nat} {cs : List Char} {tokens : List Token}
    (h : Scans start cs tokens) {name : String} {position : Nat}
    (hmem : ⟨.operand name, position⟩ ∈ tokens) : IsName name := by
  obtain ⟨-, c, rest, -, hoperand, rfl⟩ := h.operand_at hmem
  apply isName_asciiLower (List.cons_ne_nil c _)
  intro d hd
  rcases List.mem_cons.1 hd with rfl | hd
  · simp [isNameChar, hoperand]
  · exact isNameChar_of_mem_take c.isDigit rest d hd

/-- A successful scan passes characters of formulas only. -/
theorem isFormulaChar {start : Nat} {cs : List Char} {tokens : List Token}
    (h : Scans start cs tokens) : ∀ c ∈ cs, isFormulaChar c = true := by
  induction h with
  | done start => simp
  | blank hblank _ ih =>
      exact List.forall_mem_cons.2 ⟨by simp [Formula.isFormulaChar, hblank], ih⟩
  | @operand start more c rest tokens hoperand hmore _ ih =>
      refine List.forall_mem_cons.2
        ⟨by simp [Formula.isFormulaChar, isNameChar, hoperand], ?_⟩
      intro d hd
      rw [← List.take_append_drop more rest] at hd
      rcases List.mem_append.1 hd with hd | hd
      · have hname := isNameChar_of_mem_take c.isDigit rest d (hmore ▸ hd)
        simp [Formula.isFormulaChar, hname]
      · exact ih d hd
  | symbol hlexeme _ ih =>
      exact List.forall_mem_cons.2 ⟨by simp [Formula.isFormulaChar, hlexeme], ih⟩

theorem isAscii {start : Nat} {cs : List Char} {tokens : List Token}
    (h : Scans start cs tokens) : ∀ c ∈ cs, c.toNat < 128 :=
  fun c hc => isAscii_of_isFormulaChar (h.isFormulaChar c hc)

end Scans

/-! ## Letter case -/

/-- The scan finds the same in a text and in its lower case. -/
theorem scan_map_toLower (position : Nat) (found : List Token)
    (cs : List Char) :
    scan position found (cs.map Char.toLower) = scan position found cs := by
  fun_induction scan position found cs with
  | case1 position found => rw [List.map_nil, scan]
  | case2 position found c rest hblank ih =>
      rw [List.map_cons, scan, isAsciiBlank_toLower, if_pos hblank, ih]
  | case3 position found c rest hblank hoperand more operand ih =>
      rw [List.map_cons, scan, isAsciiBlank_toLower, if_neg hblank,
        isOperandChar_toLower, if_pos hoperand]
      simp only [isDigit_toLower, operandLength_map_toLower]
      rw [← List.map_take, ← List.map_cons, asciiLower_map_toLower,
        ← List.map_drop]
      exact ih
  | case4 position found c rest hblank hoperand lexeme hlexeme ih =>
      rw [List.map_cons, scan, isAsciiBlank_toLower, if_neg hblank,
        isOperandChar_toLower, if_neg hoperand, ofChar?_toLower, hlexeme]
      exact ih
  | case5 position found c rest hblank hoperand hlexeme =>
      rw [List.map_cons, scan, isAsciiBlank_toLower, if_neg hblank,
        isOperandChar_toLower, if_neg hoperand, ofChar?_toLower, hlexeme,
        toLower_of_not_operandChar hoperand]

/-- The tokens of an accepted formula are those of its lower case. -/
theorem tokenize_lowerText {source : String} {tokens : List Token}
    (h : tokenize source = .ok tokens) :
    tokenize (lowerText source) = .ok tokens := by
  have hascii := (scans_of_tokenize h).isAscii
  rw [tokenize, lowerText, lower_of_ascii hascii, String.toList_ofList,
    scan_map_toLower]
  exact h

end CounterTables.Formula
