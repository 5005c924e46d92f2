import Mathlib
import CounterTables.Number.Literal
import CounterTables.Proofs.Formula.FirstFault

/-!
# Points in operands

An operand that starts with a digit may take in one point, where a digit
follows. What comes before the point is not looked at again, so it may be any
word that starts with a digit, and need not end with one: a point belongs
between two digits, but an operand may have it behind a letter or an underscore.

No token and no blank starts with a point, and none ends with one. So the points
of a formula are those of its operands, and whether each of them has a digit
before it can be told from the text of the formula.

## Main results

* `IsOperand.decimalPoint_iff` — the points of one operand.
* `Spells.decimalPoints_iff` — the points of a text.
* `PointedWords.readLiteral_isSome_iff` — when a word with a point is a literal.
* `points_of_operands` — what is before and behind a point, and when all points
  are between digits.
-/

namespace CounterTables.Formula

open CounterTables.Number (readLiteral readExponent)

/-! ## Points between digits -/

def endsWithDigit (cs : List Char) : Bool :=
  startsWithDigit cs.reverse

/-- There is at most one point, and any point is between two digits. -/
structure DecimalPoint (cs : List Char) : Prop where
  single : cs.count '.' ≤ 1
  between : ∀ front back, cs = front ++ '.' :: back →
    endsWithDigit front = true ∧ startsWithDigit back = true

/-- Each point has a digit directly before it. -/
def PointsFollowDigits (cs : List Char) : Prop :=
  cs.IsChain fun c d => d = '.' → c.isDigit = true

/-- A text with one point, between two words that start with digits. -/
structure PointedWords (whole fraction : List Char) : Prop where
  whole_digit : startsWithDigit whole = true
  fraction_digit : startsWithDigit fraction = true
  chars : ∀ c ∈ whole ++ fraction, isOperandChar c = true

theorem point_not_mem {cs : List Char} (h : ∀ c ∈ cs, isOperandChar c = true) :
    '.' ∉ cs :=
  fun hpoint => absurd (h '.' hpoint) (by decide)

theorem pointsFollowDigits_of_not_mem {cs : List Char} (h : '.' ∉ cs.tail) :
    PointsFollowDigits cs := by
  induction cs with
  | nil => exact .nil
  | cons c cs ih =>
      refine List.isChain_cons.2 ⟨?_, ih fun hmem => h (List.mem_of_mem_tail hmem)⟩
      rintro d hd rfl
      exact absurd (List.mem_of_mem_head? hd) h

/-- Where no point comes first, the points of two texts are those of each. -/
theorem pointsFollowDigits_append_iff {cs rest : List Char}
    (h : ∀ c ∈ rest.head?, c ≠ '.') :
    PointsFollowDigits (cs ++ rest) ↔ PointsFollowDigits cs ∧
      PointsFollowDigits rest := by
  unfold PointsFollowDigits
  rw [List.isChain_append, and_congr_right_iff]
  exact fun _ => and_iff_left fun _ _ d hd hpoint => absurd hpoint (h d hd)

theorem pointsFollowDigits_cons_iff (c : Char) {rest : List Char}
    (h : ∀ d ∈ rest.head?, d ≠ '.') :
    PointsFollowDigits (c :: rest) ↔ PointsFollowDigits rest := by
  rw [← List.singleton_append, pointsFollowDigits_append_iff h]
  exact and_iff_right (.singleton c)

namespace PointedWords

variable {whole fraction : List Char}

theorem point_not_mem_whole (h : PointedWords whole fraction) : '.' ∉ whole :=
  point_not_mem fun c hc => h.chars c (List.mem_append_left _ hc)

theorem point_not_mem_fraction (h : PointedWords whole fraction) : '.' ∉ fraction :=
  point_not_mem fun c hc => h.chars c (List.mem_append_right _ hc)

/-- The point is between digits just if the first word ends with a digit. -/
theorem decimalPoint_iff (h : PointedWords whole fraction) :
    DecimalPoint (whole ++ '.' :: fraction) ↔ endsWithDigit whole = true := by
  constructor
  · exact fun hdecimal => (hdecimal.between whole fraction rfl).1
  · intro hend
    refine ⟨?_, ?_⟩
    · rw [List.count_append, List.count_cons_self,
        List.count_eq_zero.2 h.point_not_mem_whole,
        List.count_eq_zero.2 h.point_not_mem_fraction]
    · intro front back hsplit
      rw [List.append_cons_inj_of_notMem h.point_not_mem_whole h.point_not_mem_fraction]
        at hsplit
      obtain ⟨rfl, -, rfl⟩ := hsplit
      exact ⟨hend, h.fraction_digit⟩

theorem pointsFollowDigits_iff (h : PointedWords whole fraction) :
    PointsFollowDigits (whole ++ '.' :: fraction) ↔ endsWithDigit whole = true := by
  have hwhole : PointsFollowDigits whole :=
    pointsFollowDigits_of_not_mem fun hmem =>
      h.point_not_mem_whole (List.mem_of_mem_tail hmem)
  have hfraction : PointsFollowDigits ('.' :: fraction) :=
    pointsFollowDigits_of_not_mem h.point_not_mem_fraction
  unfold PointsFollowDigits at hwhole hfraction ⊢
  rw [List.isChain_append, and_iff_right hwhole, and_iff_right hfraction]
  rcases List.eq_nil_or_concat whole with rfl | ⟨front, c, rfl⟩
  · cases h.whole_digit
  · simp [endsWithDigit, startsWithDigit]

end PointedWords

/-- An operand has its point between digits just if a digit comes before it. -/
theorem IsOperand.decimalPoint_iff {cs : List Char} (h : IsOperand cs) :
    DecimalPoint cs ↔ PointsFollowDigits cs := by
  cases h with
  | word hne hchars =>
      have hpoint := point_not_mem hchars
      refine iff_of_true ⟨?_, ?_⟩ ?_
      · rw [List.count_eq_zero.2 hpoint]
        exact Nat.zero_le 1
      · intro front back hsplit
        exact absurd (by simp [hsplit]) hpoint
      · exact pointsFollowDigits_of_not_mem fun hrest =>
          hpoint (List.mem_of_mem_tail hrest)
  | decimal hwhole hfraction hchars =>
      have hwords : PointedWords _ _ := ⟨hwhole, hfraction, hchars⟩
      rw [hwords.decimalPoint_iff, hwords.pointsFollowDigits_iff]

theorem IsOperand.exists_pointedWords {cs : List Char} (h : IsOperand cs)
    (hpoint : '.' ∈ cs) :
    ∃ whole fraction, cs = whole ++ '.' :: fraction ∧ PointedWords whole fraction := by
  cases h with
  | word _ hchars => exact absurd hpoint (point_not_mem hchars)
  | decimal hwhole hfraction hchars => exact ⟨_, _, rfl, hwhole, hfraction, hchars⟩

/-! ## Lower case -/

theorem startsWithDigit_map_toLower (cs : List Char) :
    startsWithDigit (cs.map Char.toLower) = startsWithDigit cs := by
  cases cs with
  | nil => rfl
  | cons c cs => exact isDigit_toLower c

theorem isOperandChar_map_toLower {cs : List Char}
    (h : ∀ c ∈ cs, isOperandChar c = true) :
    ∀ c ∈ cs.map Char.toLower, isOperandChar c = true := by
  rw [List.forall_mem_map]
  intro c hc
  rw [isOperandChar_toLower, h c hc]

theorem IsOperand.map_toLower {cs : List Char} (h : IsOperand cs) :
    IsOperand (cs.map Char.toLower) := by
  cases h with
  | word hne hchars =>
      exact .word (by simpa using hne) (isOperandChar_map_toLower hchars)
  | @decimal whole fraction hwhole hfraction hchars =>
      rw [List.map_append, List.map_cons]
      refine .decimal (by rwa [startsWithDigit_map_toLower])
        (by rwa [startsWithDigit_map_toLower]) ?_
      rw [← List.map_append]
      exact isOperandChar_map_toLower hchars

theorem pointsFollowDigits_map_toLower (cs : List Char) :
    PointsFollowDigits (cs.map Char.toLower) ↔ PointsFollowDigits cs := by
  have hpoint : ∀ c : Char, c.toLower = '.' ↔ c = '.' := by
    intro c
    rw [← beq_iff_eq, isPoint_toLower, beq_iff_eq]
  simp only [PointsFollowDigits, List.isChain_map, hpoint, isDigit_toLower]

theorem toList_lowerName (name : String) :
    (lowerName name).toList = name.toList.map Char.toLower := by
  simp [lowerName, asciiLower]

theorem IsOperand.decimalPoint_lowerName_iff {name : String}
    (h : IsOperand name.toList) :
    DecimalPoint (lowerName name).toList ↔ DecimalPoint name.toList := by
  rw [toList_lowerName, h.map_toLower.decimalPoint_iff, pointsFollowDigits_map_toLower,
    h.decimalPoint_iff]

theorem operandsOf_map_lower (lexemes : List Lexeme) :
    operandsOf (lexemes.map Lexeme.lower) = (operandsOf lexemes).map lowerName := by
  induction lexemes with
  | nil => rfl
  | cons lexeme lexemes ih =>
      cases lexeme with
      | operand name => exact congrArg (lowerName name :: ·) ih
      | _ => exact ih

/-! ## Points of a text -/

theorem Spells.head?_ne_point {cs : List Char} {lexemes : List Lexeme}
    (h : Spells cs lexemes) : ∀ c ∈ cs.head?, c ≠ '.' := by
  obtain ⟨tokens, hscans, -⟩ := h.exists_tokens 0
  rintro c hc rfl
  obtain ⟨rest, rfl⟩ := List.head?_eq_some_iff.1 hc
  have hstops : StopsOperand ('.' :: rest) :=
    hscans.stopsOperand (show isOperandChar '.' = false by decide)
  cases hstops

/-- All operands of a text have their points between digits just if each point
of the text follows a digit. -/
theorem Spells.decimalPoints_iff {cs : List Char} {lexemes : List Lexeme}
    (h : Spells cs lexemes) :
    (∀ name ∈ operandsOf lexemes, DecimalPoint name.toList) ↔
      PointsFollowDigits cs := by
  induction h with
  | done => exact iff_of_true (List.forall_mem_nil _) .nil
  | @blank c rest lexemes _ hrest ih =>
      rw [ih, pointsFollowDigits_cons_iff c hrest.head?_ne_point]
  | @operand name rest lexemes hname _ hrest ih =>
      have hnames : operandsOf (.operand name :: lexemes) =
          name :: operandsOf lexemes := rfl
      rw [hnames, List.forall_mem_cons, ih, hname.decimalPoint_iff,
        pointsFollowDigits_append_iff hrest.head?_ne_point]
  | @symbol c rest lexeme lexemes hlexeme hrest ih =>
      have hnames : operandsOf (lexeme :: lexemes) = operandsOf lexemes := by
        cases lexeme with
        | operand name => exact absurd hlexeme (ofChar?_ne_operand c name)
        | _ => rfl
      rw [hnames, ih, pointsFollowDigits_cons_iff c hrest.head?_ne_point]

/-! ## Literals -/

theorem readExponent_of_point {c : Char} {rest : List Char} (h : '.' ∈ rest) :
    readExponent (c :: rest) = none := by
  have hdigits : ∀ {digits : List Char}, '.' ∈ digits →
      (digits.isEmpty || !digits.all Char.isDigit) = true := by
    intro digits hpoint
    have hall : digits.all Char.isDigit = false :=
      List.all_eq_false.2 ⟨'.', hpoint, by decide⟩
    rw [hall, Bool.not_false, Bool.or_true]
  generalize hall : c :: rest = cs
  fun_cases readExponent cs with
  | case1 => cases hall
  | case2 => rfl
  | case3 marker rest _ negative digits hsign hfault =>
      obtain ⟨-, rfl⟩ := List.cons.inj hall
      refine absurd (hdigits ?_) hfault
      split at hsign
      · obtain ⟨-, rfl⟩ := Prod.mk.inj hsign
        simpa using h
      · obtain ⟨-, rfl⟩ := Prod.mk.inj hsign
        simpa using h
      · obtain ⟨-, rfl⟩ := Prod.mk.inj hsign
        exact h
  | case4 => rfl

namespace PointedWords

variable {whole fraction : List Char}

/-- Behind digits and the point come digits and perhaps an exponent. -/
theorem readLiteral_isSome_of_digits (h : PointedWords whole fraction)
    (hdigits : ∀ c ∈ whole, c.isDigit = true) :
    (readLiteral (whole ++ '.' :: fraction)).isSome =
      (readExponent (fraction.dropWhile Char.isDigit)).isSome := by
  have hne : whole.isEmpty = false := by
    cases whole with
    | nil => cases h.whole_digit
    | cons c whole => rfl
  have htake : (whole ++ '.' :: fraction).takeWhile Char.isDigit = whole := by
    rw [List.takeWhile_append_of_pos hdigits]
    simp
  have hdrop : (whole ++ '.' :: fraction).dropWhile Char.isDigit = '.' :: fraction := by
    rw [List.dropWhile_append_of_pos hdigits]
    simp
  simp [readLiteral, htake, hdrop, hne]

/-- Behind another character than a digit, the point is no part of a literal. -/
theorem readLiteral_eq_none (h : PointedWords whole fraction)
    (hother : ¬ ∀ c ∈ whole, c.isDigit = true) :
    readLiteral (whole ++ '.' :: fraction) = none := by
  -- what the digits leave of the first word starts with a character that is
  -- none
  obtain ⟨d, more, hleft⟩ := List.exists_cons_of_ne_nil
    (mt List.dropWhile_eq_nil_iff.1 hother)
  have hd : isOperandChar d = true := by
    refine h.chars d (List.mem_append_left _ ?_)
    exact (List.dropWhile_suffix _).subset (hleft ▸ List.mem_cons_self)
  have hdrop : (whole ++ '.' :: fraction).dropWhile Char.isDigit =
      d :: (more ++ '.' :: fraction) := by
    rw [List.dropWhile_append, hleft]
    rfl
  have hpoint : '.' ≠ d := by
    rintro rfl
    cases hd
  generalize whole ++ '.' :: fraction = text at hdrop ⊢
  fun_cases readLiteral text with
  | case1 => rfl
  | case2 digits _ digits' rest hrest =>
      rw [hdrop] at hrest
      split at hrest
      · rename_i heq
        exact absurd (List.cons.inj heq).1 hpoint.symm
      · obtain ⟨-, rfl⟩ := Prod.mk.inj hrest
        rw [readExponent_of_point (by simp)]
        rfl

/-- A text with a point is a literal just if only digits come before the point,
and behind it digits and perhaps an exponent. -/
theorem readLiteral_isSome_iff (h : PointedWords whole fraction) :
    (readLiteral (whole ++ '.' :: fraction)).isSome = true ↔
      (∀ c ∈ whole, c.isDigit = true) ∧
        (readExponent (fraction.dropWhile Char.isDigit)).isSome = true := by
  by_cases hdigits : ∀ c ∈ whole, c.isDigit = true
  · rw [h.readLiteral_isSome_of_digits hdigits, and_iff_right hdigits]
  · rw [h.readLiteral_eq_none hdigits, iff_false_right fun hboth => hdigits hboth.1]
    exact Bool.false_ne_true

end PointedWords

/-! ## Formulas -/

theorem operands_of_compile {source : String} {tokens : List Token} {formula : Postfix}
    (htokens : tokenize source = .ok tokens) (h : compile source = .ok formula) :
    formula.operands = operandsOf (tokens.map Token.lexeme) := by
  obtain ⟨others, tree, hothers, hderives, hitems⟩ := compile_eq_ok_iff.1 h
  obtain rfl := Except.ok.inj (htokens.symm.trans hothers)
  obtain ⟨items⟩ := formula
  obtain rfl : items = tree.postOrder := hitems
  rw [Expr.operands_postOrder, hderives.operands_eq]

/-- **A point is put behind any word that starts with a digit.** An operand with
a point consists of two words that start with digits and the point between them.
So all points of the operands are between digits just if each point of the
source follows a digit. An operand with a point is a literal just if only digits
come before the point, and behind it digits and perhaps an exponent. The
operands of the compiled formula are those of the source. -/
theorem points_of_operands {source : String} {tokens : List Token}
    (htokens : tokenize source = .ok tokens) :
    let names := operandsOf (tokens.map Token.lexeme)
    (∀ name ∈ names, '.' ∈ name.toList →
      ∃ whole fraction, name.toList = whole ++ '.' :: fraction ∧
        PointedWords whole fraction ∧
        ((readLiteral name.toList).isSome = true ↔
          (∀ c ∈ whole, c.isDigit = true) ∧
            (readExponent (fraction.dropWhile Char.isDigit)).isSome = true)) ∧
    ((∀ name ∈ names, DecimalPoint name.toList) ↔ PointsFollowDigits source.toList) ∧
    ∀ formula, compile source = .ok formula → formula.operands = names := by
  intro names
  obtain ⟨lexemes, hspells, hlexemes⟩ := exists_spells (tokenize_eq_ok_iff.1 htokens)
  have hnames : names = (operandsOf lexemes).map lowerName := by
    rw [← operandsOf_map_lower, ← hlexemes]
  have hoperand : ∀ name ∈ operandsOf lexemes, IsOperand name.toList :=
    fun name hname => hspells.isOperand (mem_operandsOf_iff.1 hname)
  refine ⟨?_, ?_, fun formula => operands_of_compile htokens⟩
  · rw [hnames, List.forall_mem_map]
    intro name hname hpoint
    have hlower := (hoperand name hname).map_toLower
    rw [← toList_lowerName] at hlower
    obtain ⟨whole, fraction, htext, hwords⟩ := hlower.exists_pointedWords hpoint
    rw [htext]
    exact ⟨whole, fraction, rfl, hwords, hwords.readLiteral_isSome_iff⟩
  · rw [hnames, List.forall_mem_map, ← hspells.decimalPoints_iff]
    exact forall₂_congr fun name hname =>
      (hoperand name hname).decimalPoint_lowerName_iff

/-- A word with a letter before its point, and a number. -/
theorem points_of_mixed_operands :
    tokenize "1a.5 + 0.5" =
      .ok [⟨.operand "1a.5", 0⟩, ⟨.operator .add, 5⟩, ⟨.operand "0.5", 7⟩] ∧
    ((∀ name ∈ ["1a.5", "0.5"], DecimalPoint name.toList) ↔
      PointsFollowDigits "1a.5 + 0.5".toList) ∧
    ¬ PointsFollowDigits "1a.5 + 0.5".toList ∧
    ∃ whole fraction, "1a.5".toList = whole ++ '.' :: fraction ∧
      PointedWords whole fraction := by
  have htokens : tokenize "1a.5 + 0.5" =
      .ok [⟨.operand "1a.5", 0⟩, ⟨.operator .add, 5⟩, ⟨.operand "0.5", 7⟩] := by cbv
  have hfollow : ¬ PointsFollowDigits "1a.5 + 0.5".toList := by
    unfold PointsFollowDigits
    decide
  obtain ⟨hwords, hpoints, -⟩ := points_of_operands htokens
  obtain ⟨whole, fraction, htext, hword, -⟩ :=
    hwords "1a.5" List.mem_cons_self (by decide)
  exact ⟨htokens, hpoints, hfollow, whole, fraction, htext, hword⟩

/-- The point is behind a letter, and the operand is no literal. -/
theorem letter_before_point :
    tokenize "1a.5" = .ok [⟨.operand "1a.5", 0⟩] ∧
    ¬ DecimalPoint "1a.5".toList ∧
    compile "1a.5" = .ok ⟨[.operand "1a.5"]⟩ ∧
    readLiteral "1a.5".toList = none := by
  refine ⟨by cbv, ?_, by cbv, by rfl⟩
  intro hdecimal
  exact absurd (hdecimal.between ['1', 'a'] ['5'] rfl).1 (by decide)

end CounterTables.Formula
