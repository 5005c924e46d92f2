import Mathlib
import CounterTables.Proofs.Formula.Sentences

/-!
# Spellings of formulas

Many texts stand for the same lexemes: blanks may come anywhere between them,
and letters may be of either case. `Spells` says what a text may look like that
stands for given lexemes, with their operands as they are written. It is the
scan turned round: every text that is cut into tokens spells them, and every
text that spells lexemes is cut into just these.

What follows an operand must not go on with it. Two operands are never next to
each other in a sentence, so the lexemes of a tree can be written without any
blank.

## Main results

* `Spells.exists_tokens`, `exists_spells` — both directions.
* `compile_eq_ok_iff_denotes` — a text is compiled just if it denotes a tree,
  and to the listing of that tree in lower case.
* `Denotes.unique` — up to letter case a text denotes one tree.
-/

namespace CounterTables.Formula

open CounterTables.Formula.Expr (Level Derives)
open CounterTables.Text (isAsciiBlank)

/-! ## Operands -/

/-- The texts that are one operand. Identifiers and whole numbers are words; a
number with a point is two words, each of which starts with a digit. -/
inductive IsOperand : List Char → Prop
  | word {cs : List Char} (hne : cs ≠ [])
      (hchars : ∀ c ∈ cs, isOperandChar c = true) : IsOperand cs
  | decimal {whole fraction : List Char} (hwhole : startsWithDigit whole = true)
      (hfraction : startsWithDigit fraction = true)
      (hchars : ∀ c ∈ whole ++ fraction, isOperandChar c = true) :
      IsOperand (whole ++ '.' :: fraction)

/-- After its first character an operand is a word, or it is a number whose
whole part ends at a point. -/
theorem IsOperand.cons_cases {c : Char} {cs : List Char} (h : IsOperand (c :: cs)) :
    (∀ d ∈ cs, isOperandChar d = true) ∨
      ∃ word fraction, cs = word ++ '.' :: fraction ∧ c.isDigit = true ∧
        startsWithDigit fraction = true ∧ (∀ d ∈ word, isOperandChar d = true) ∧
        ∀ d ∈ fraction, isOperandChar d = true := by
  generalize hall : c :: cs = all at h
  cases h with
  | word hne hchars =>
      subst hall
      exact .inl (List.forall_mem_cons.1 hchars).2
  | @decimal whole fraction hwhole hfraction hchars =>
      cases whole with
      | nil => cases hwhole
      | cons first word =>
          rw [List.cons_append] at hall
          obtain ⟨rfl, rfl⟩ := List.cons.inj hall
          obtain ⟨hword, hrest⟩ :=
            List.forall_mem_append.1 (List.forall_mem_cons.1 hchars).2
          exact .inr ⟨word, fraction, rfl, hwhole, hfraction, hword, hrest⟩

/-- No character comes first that goes on with a word. -/
def StopsWord : List Char → Prop
  | [] => True
  | c :: _ => isOperandChar c = false

/-- No character comes first that operands are written with. -/
def StopsOperand : List Char → Prop
  | [] => True
  | c :: _ => isNameChar c = false

theorem operandLength_word {word : List Char}
    (hword : ∀ c ∈ word, isOperandChar c = true) (point : Bool) (rest : List Char) :
    operandLength point 0 (word ++ rest) =
      word.length + operandLength point 0 rest := by
  induction word with
  | nil => simp
  | cons c word ih =>
      obtain ⟨hc, hword⟩ := List.forall_mem_cons.1 hword
      rw [List.cons_append, operandLength, if_pos hc, operandLength_eq_add, ih hword,
        List.length_cons]
      omega

theorem operandLength_of_stopsWord {rest : List Char} (h : StopsWord rest) :
    operandLength false 0 rest = 0 := by
  cases rest with
  | nil => rfl
  | cons c rest =>
      have hc : isOperandChar c = false := h
      simp [operandLength, hc]

theorem operandLength_of_stopsOperand {rest : List Char} (h : StopsOperand rest)
    (point : Bool) : operandLength point 0 rest = 0 := by
  cases rest with
  | nil => rfl
  | cons c rest =>
      have hc : isNameChar c = false := h
      simp only [isNameChar, Bool.or_eq_false_iff] at hc
      simp [operandLength, hc]

theorem startsWithDigit_append {digits : List Char}
    (h : startsWithDigit digits = true) (rest : List Char) :
    startsWithDigit (digits ++ rest) = true := by
  cases digits with
  | nil => cases h
  | cons c digits => exact h

theorem operandLength_point {fraction : List Char}
    (hfraction : startsWithDigit fraction = true)
    (hchars : ∀ c ∈ fraction, isOperandChar c = true) (rest : List Char) :
    operandLength true 0 ('.' :: fraction ++ rest) =
      fraction.length + 1 + operandLength false 0 rest := by
  have hdigit := startsWithDigit_append hfraction rest
  have hpoint : isOperandChar '.' = false := by decide
  rw [List.cons_append, operandLength, hpoint, hdigit, operandLength_eq_add false,
    operandLength_word hchars]
  show 0 + 1 + (fraction.length + _) = fraction.length + 1 + _
  omega

/-- The scan does not stop inside an operand. -/
theorem IsOperand.exists_operandLength {c : Char} {cs : List Char}
    (h : IsOperand (c :: cs)) (rest : List Char) :
    ∃ point, operandLength c.isDigit 0 (cs ++ rest) =
      cs.length + operandLength point 0 rest := by
  obtain hcs | ⟨word, fraction, rfl, hdigit, hfraction, hword, hchars⟩ := h.cons_cases
  · exact ⟨c.isDigit, operandLength_word hcs c.isDigit rest⟩
  · refine ⟨false, ?_⟩
    rw [List.append_assoc, operandLength_word hword, hdigit,
      operandLength_point hfraction hchars, List.length_append, List.length_cons]
    omega

/-- An operand reaches to its end, if nothing behind it goes on with it. -/
theorem IsOperand.operandLength_eq {c : Char} {cs rest : List Char}
    (h : IsOperand (c :: cs)) (hrest : StopsOperand rest) :
    operandLength c.isDigit 0 (cs ++ rest) = cs.length := by
  obtain ⟨point, hlength⟩ := h.exists_operandLength rest
  rw [hlength, operandLength_of_stopsOperand hrest, Nat.add_zero]

/-- What the scan takes for an operand is one, and it takes all it can. -/
theorem exists_operand_split {c : Char} (hc : isOperandChar c = true)
    (cs : List Char) :
    ∃ more rest, cs = more ++ rest ∧ operandLength c.isDigit 0 cs = more.length ∧
      IsOperand (c :: more) ∧ StopsWord rest := by
  -- the first word, what follows it, and what may follow a point
  have hfirst : ∀ cs : List Char, ∃ word rest, cs = word ++ rest ∧
      (∀ d ∈ word, isOperandChar d = true) ∧ StopsWord rest := by
    intro cs
    refine ⟨cs.takeWhile isOperandChar, cs.dropWhile isOperandChar,
      List.takeWhile_append_dropWhile.symm, fun d hd => List.mem_takeWhile_imp hd, ?_⟩
    cases hdrop : cs.dropWhile isOperandChar with
    | nil => trivial
    | cons d rest =>
        have hhead := List.head?_dropWhile_not isOperandChar cs
        rw [hdrop] at hhead
        show isOperandChar d = false
        simpa using hhead
  obtain ⟨word, after, rfl, hword, hafter⟩ := hfirst cs
  have hwhole : ∀ d ∈ c :: word, isOperandChar d = true :=
    List.forall_mem_cons.2 ⟨hc, hword⟩
  by_cases hpoint : ∃ tail, c.isDigit = true ∧ after = '.' :: tail ∧
      startsWithDigit tail = true
  · obtain ⟨tail, hdigit, rfl, htail⟩ := hpoint
    obtain ⟨fraction, rest, rfl, hfraction, hrest⟩ := hfirst tail
    have hstart : startsWithDigit fraction = true := by
      cases fraction with
      | cons d fraction => exact htail
      | nil =>
          cases rest with
          | nil => cases htail
          | cons d rest =>
              have hnot : isOperandChar d = false := hrest
              have hdigit : d.isDigit = true := htail
              simp [isOperandChar, Char.isAlphanum, hdigit] at hnot
    refine ⟨word ++ '.' :: fraction, rest, by simp, ?_, ?_, hrest⟩
    · rw [operandLength_word hword, hdigit, ← List.cons_append,
        operandLength_point hstart hfraction, operandLength_of_stopsWord hrest]
      simp
    · have hall : ∀ d ∈ (c :: word) ++ fraction, isOperandChar d = true :=
        List.forall_mem_append.2 ⟨hwhole, hfraction⟩
      exact .decimal (show startsWithDigit (c :: word) = true from hdigit) hstart hall
  · refine ⟨word, after, rfl, ?_, .word (List.cons_ne_nil c word) hwhole, hafter⟩
    rw [operandLength_word hword]
    cases after with
    | nil => rfl
    | cons d tail =>
        have hd : isOperandChar d = false := hafter
        have hno : (c.isDigit && d == '.' && startsWithDigit tail) = false := by
          rw [Bool.eq_false_iff]
          intro hyes
          simp only [Bool.and_eq_true, beq_iff_eq] at hyes
          exact hpoint ⟨tail, hyes.1.1, by rw [hyes.1.2], hyes.2⟩
        rw [operandLength, hd, hno]
        rfl

/-! ## Lower case -/

/-- An operand as the scan leaves it. -/
def lowerName (name : String) : String :=
  asciiLower name.toList

/-- A lexeme as the scan leaves it. -/
def Lexeme.lower : Lexeme → Lexeme
  | operand name => operand (lowerName name)
  | operator op => operator op
  | openParen => openParen
  | closeParen => closeParen

/-! ## Spellings -/

/-- The text stands for the lexemes, whose operands are as they are written. -/
inductive Spells : List Char → List Lexeme → Prop
  | done : Spells [] []
  | blank {c : Char} {rest : List Char} {lexemes : List Lexeme} :
      isAsciiBlank c = true → Spells rest lexemes → Spells (c :: rest) lexemes
  | operand {name : String} {rest : List Char} {lexemes : List Lexeme} :
      IsOperand name.toList → StopsOperand rest → Spells rest lexemes →
      Spells (name.toList ++ rest) (.operand name :: lexemes)
  | symbol {c : Char} {rest : List Char} {lexeme : Lexeme} {lexemes : List Lexeme} :
      Lexeme.ofChar? c = some lexeme → Spells rest lexemes →
      Spells (c :: rest) (lexeme :: lexemes)

theorem Lexeme.lower_of_ofChar? {c : Char} {lexeme : Lexeme}
    (h : Lexeme.ofChar? c = some lexeme) : lexeme.lower = lexeme := by
  cases lexeme with
  | operand name => exact absurd h (ofChar?_ne_operand c name)
  | _ => rfl

theorem IsOperand.exists_cons {cs : List Char} (h : IsOperand cs) :
    ∃ c rest, cs = c :: rest ∧ isOperandChar c = true := by
  cases h with
  | word hne hchars =>
      obtain ⟨c, rest, rfl⟩ := List.exists_cons_of_ne_nil hne
      exact ⟨c, rest, rfl, hchars c List.mem_cons_self⟩
  | @decimal whole fraction hwhole _ hchars =>
      cases whole with
      | nil => cases hwhole
      | cons c whole => exact ⟨c, _, rfl, hchars c (by simp)⟩

/-- A text that spells lexemes is cut into these. -/
theorem Spells.exists_tokens {cs : List Char} {lexemes : List Lexeme}
    (h : Spells cs lexemes) (position : Nat) :
    ∃ tokens, Scans position cs tokens ∧
      tokens.map Token.lexeme = lexemes.map Lexeme.lower := by
  induction h generalizing position with
  | done => exact ⟨[], .done position, rfl⟩
  | blank hblank _ ih =>
      obtain ⟨tokens, hscans, hlexemes⟩ := ih (position + 1)
      exact ⟨tokens, .blank hblank hscans, hlexemes⟩
  | @operand name rest lexemes hname hrest _ ih =>
      obtain ⟨c, more, hcs, hc⟩ := hname.exists_cons
      rw [hcs] at hname
      have hlength := hname.operandLength_eq hrest
      obtain ⟨tokens, hscans, hlexemes⟩ := ih (position + 1 + more.length)
      have htake : (more ++ rest).take more.length = more := by simp
      have hdrop : (more ++ rest).drop more.length = rest := by simp
      have hoperand : Scans position (c :: (more ++ rest))
          (⟨.operand (asciiLower (c :: (more ++ rest).take more.length)), position⟩ ::
            tokens) :=
        .operand hc hlength.symm (by rwa [hdrop])
      rw [htake] at hoperand
      refine ⟨_, by rw [hcs]; exact hoperand, ?_⟩
      rw [List.map_cons, List.map_cons, hlexemes, Lexeme.lower, lowerName, hcs]
  | @symbol c rest lexeme lexemes hlexeme _ ih =>
      obtain ⟨tokens, hscans, hlexemes⟩ := ih (position + 1)
      refine ⟨⟨lexeme, position⟩ :: tokens, .symbol hlexeme hscans, ?_⟩
      rw [List.map_cons, List.map_cons, hlexemes, Lexeme.lower_of_ofChar? hlexeme]

/-- No token and no blank starts with a point. -/
theorem Scans.stopsOperand {position : Nat} {cs : List Char} {tokens : List Token}
    (h : Scans position cs tokens) (hstops : StopsWord cs) : StopsOperand cs := by
  cases h with
  | done => trivial
  | @blank _ c rest _ hblank _ =>
      have hne : c ≠ '.' := by
        rintro rfl
        exact absurd hblank (by decide)
      exact Bool.or_eq_false_iff.2 ⟨hstops, beq_false_of_ne hne⟩
  | @operand _ _ c rest _ hoperand _ _ =>
      have hnot : isOperandChar c = false := hstops
      rw [hoperand] at hnot
      cases hnot
  | @symbol _ c rest lexeme _ hlexeme _ =>
      have hne : c ≠ '.' := by
        rintro rfl
        exact absurd hlexeme (by simp [Lexeme.ofChar?, Operator.ofChar?])
      exact Bool.or_eq_false_iff.2 ⟨hstops, beq_false_of_ne hne⟩

/-- A text that is cut into tokens spells these. -/
theorem exists_spells {position : Nat} {cs : List Char} {tokens : List Token}
    (h : Scans position cs tokens) :
    ∃ lexemes, Spells cs lexemes ∧
      tokens.map Token.lexeme = lexemes.map Lexeme.lower := by
  induction h with
  | done position => exact ⟨[], .done, rfl⟩
  | blank hblank _ ih =>
      obtain ⟨lexemes, hspells, hlexemes⟩ := ih
      exact ⟨lexemes, .blank hblank hspells, hlexemes⟩
  | @operand position more c cs tokens hoperand hmore hscans ih =>
      obtain ⟨lexemes, hspells, hlexemes⟩ := ih
      obtain ⟨word, rest, rfl, hlength, hword, hstops⟩ :=
        exists_operand_split hoperand cs
      obtain rfl : more = word.length := hmore.trans hlength
      have htake : (word ++ rest).take word.length = word := by simp
      have hdrop : (word ++ rest).drop word.length = rest := by simp
      rw [hdrop] at hscans hspells
      have hname : (String.ofList (c :: word)).toList = c :: word :=
        String.toList_ofList
      have hoperand : Spells ((String.ofList (c :: word)).toList ++ rest)
          (.operand (String.ofList (c :: word)) :: lexemes) :=
        .operand (by rw [hname]; exact hword) (hscans.stopsOperand hstops) hspells
      refine ⟨_, by rw [hname] at hoperand; exact hoperand, ?_⟩
      rw [List.map_cons, List.map_cons, hlexemes, htake, Lexeme.lower, lowerName, hname]
  | @symbol position c rest lexeme tokens hlexeme _ ih =>
      obtain ⟨lexemes, hspells, hlexemes⟩ := ih
      refine ⟨lexeme :: lexemes, .symbol hlexeme hspells, ?_⟩
      rw [List.map_cons, List.map_cons, hlexemes, Lexeme.lower_of_ofChar? hlexeme]

/-! ## Trees -/

theorem alternates_map_lower (due : Bool) (lexemes : List Lexeme) :
    alternates due (lexemes.map Lexeme.lower) = alternates due lexemes := by
  induction lexemes generalizing due with
  | nil => rfl
  | cons lexeme rest ih =>
      rw [List.map_cons, alternates, alternates, ih]
      cases lexeme <;> rfl

theorem balances_map_lower (depth : Nat) (lexemes : List Lexeme) :
    balances depth (lexemes.map Lexeme.lower) = balances depth lexemes := by
  induction lexemes generalizing depth with
  | nil => rfl
  | cons lexeme rest ih =>
      cases lexeme <;> simp [Lexeme.lower, balances, ih]

/-- What denotes a tree denotes it in lower case too. -/
theorem Expr.Derives.lower {level : Level} {lexemes : List Lexeme} {tree : Expr}
    (h : Derives level lexemes tree) :
    Derives level (lexemes.map Lexeme.lower) (tree.mapNames lowerName) := by
  induction h with
  | operand name => exact .operand (lowerName name)
  | group _ ih =>
      rw [List.cons_append, List.map_cons, List.map_append]
      exact .group ih
  | product _ ih => exact .product ih
  | sum _ ih => exact .sum ih
  | binary op _ _ ihLeft ihRight =>
      rw [List.map_append, List.map_cons]
      exact .binary op ihLeft ihRight

/-- A sentence in lower case is one in any case, of the same tree. -/
theorem exists_derives_of_lower {lexemes : List Lexeme} {tree : Expr}
    (h : Derives .sum (lexemes.map Lexeme.lower) tree) :
    ∃ written, Derives .sum lexemes written ∧ written.mapNames lowerName = tree := by
  have halternates := h.alternates
  have hbalances := h.balances
  rw [alternates_map_lower] at halternates
  rw [balances_map_lower] at hbalances
  obtain ⟨written, hwritten⟩ := exists_derives_iff.2 ⟨halternates, hbalances⟩
  exact ⟨written, hwritten, hwritten.lower.unique h⟩

/-- The text stands for the tree, whose operands are as they are written. -/
def Denotes (source : String) (tree : Expr) : Prop :=
  ∃ lexemes, Spells source.toList lexemes ∧ Derives .sum lexemes tree

theorem Denotes.exists_tokens {source : String} {tree : Expr}
    (h : Denotes source tree) :
    ∃ tokens, tokenize source = .ok tokens ∧
      Derives .sum (tokens.map Token.lexeme) (tree.mapNames lowerName) := by
  obtain ⟨lexemes, hspells, hderives⟩ := h
  obtain ⟨tokens, hscans, hlexemes⟩ := hspells.exists_tokens 0
  refine ⟨tokens, tokenize_eq_ok_iff.2 hscans, ?_⟩
  rw [hlexemes]
  exact hderives.lower

/-- A text is compiled just if it denotes a tree, and then to the listing of the
tree in lower case. -/
theorem compile_eq_ok_iff_denotes {source : String} {formula : Postfix} :
    compile source = .ok formula ↔
      ∃ tree, Denotes source tree ∧
        formula.items = (tree.mapNames lowerName).postOrder := by
  rw [compile_eq_ok_iff]
  constructor
  · rintro ⟨tokens, tree, htokens, hderives, hitems⟩
    obtain ⟨lexemes, hspells, hlexemes⟩ := exists_spells (tokenize_eq_ok_iff.1 htokens)
    rw [hlexemes] at hderives
    obtain ⟨written, hwritten, rfl⟩ := exists_derives_of_lower hderives
    exact ⟨written, ⟨lexemes, hspells, hwritten⟩, hitems⟩
  · rintro ⟨tree, hdenotes, hitems⟩
    obtain ⟨tokens, htokens, hderives⟩ := hdenotes.exists_tokens
    exact ⟨tokens, tree.mapNames lowerName, htokens, hderives, hitems⟩

/-- Up to letter case a text denotes one tree. -/
theorem Denotes.unique {source : String} {tree other : Expr}
    (htree : Denotes source tree) (hother : Denotes source other) :
    tree.mapNames lowerName = other.mapNames lowerName := by
  obtain ⟨tokens, htokens, hderives⟩ := htree.exists_tokens
  obtain ⟨tokens', htokens', hderives'⟩ := hother.exists_tokens
  obtain rfl := Except.ok.inj (htokens.symm.trans htokens')
  exact hderives.unique hderives'

end CounterTables.Formula
