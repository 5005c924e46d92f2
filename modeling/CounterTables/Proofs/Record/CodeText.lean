import Mathlib
import CounterTables.Document.Field
import CounterTables.Proofs.Formula.CompiledText
import CounterTables.Proofs.Json.WholeNumber
import CounterTables.Proofs.Text.Trimming

/-!
# Texts of event codes

An event code is written as a numeral: a mark of the base or none, a sign or
none, and digits, with blanks around. `IsNumeral` says so without reading, for
numerals of any length. The reader finds in a text the only numeral that it can
be: a decimal one has no `x`, and no digit is a sign.

So a text is refused as malformed if it is no numeral, or one of a number that
128 bits do not hold; any other number is a code or out of range, however it is
written. In particular the digits of a whole number, decimal or hexadecimal,
stand for the same as the number itself.

## Main results

* `digit?_eq_some_iff`, `isMagnitude_iff` — what digits are read as.
* `readInt_eq_some_iff` — the numerals that are read, and their values.
* `parse_of_isNumeral`, `parse_of_not_isNumeral` — the two ways of a text.
* `isNumeral_toString`, `isNumeral_hex` — the digits of a number are numerals.
* `parse_hex` — the text that is written for a code is read back.
* `parse_reads_numerals` — codes as text, and as numbers.
-/

namespace CounterTables.EventCode

open CounterTables.Formula (toLower_of_not_ascii toLower_toLower isOperandChar
  isOperandChar_toLower isNameChar_excludes)
open CounterTables.Number (twoPow)
open CounterTables.Text (forall_ascii trim trim_of_not_blank isBlank padZeros maxWidth)

/-! ## Numerals -/

/-- The character is the digit of this value; letters may be capitals. -/
def IsDigit (base : Nat) (c : Char) (value : Nat) : Prop :=
  value < base ∧ c.toLower = Nat.digitChar value

/-- The digits of a number, the first of which counts most. -/
def IsMagnitude (base : Nat) (digits : List Char) (magnitude : Nat) : Prop :=
  digits ≠ [] ∧ ∃ values, List.Forall₂ (IsDigit base) digits values ∧
    magnitude = Nat.ofDigits base values.reverse

/-- How the base is marked. -/
inductive Mark : List Char → Nat → Prop
  | none : Mark [] 10
  | small : Mark ['0', 'x'] 16
  | capital : Mark ['0', 'X'] 16

/-- What a sign multiplies a number by. -/
inductive Sign : List Char → Int → Prop
  | none : Sign [] 1
  | plus : Sign ['+'] 1
  | minus : Sign ['-'] (-1)

/-- The text is a numeral of this value. -/
inductive IsNumeral : List Char → Int → Prop
  | intro {mark sign digits : List Char} {base magnitude : Nat} {factor : Int} :
      Mark mark base → Sign sign factor → IsMagnitude base digits magnitude →
      IsNumeral (mark ++ (sign ++ digits)) (factor * magnitude)

/-- The number is one of 128 bits with sign. -/
def Fits128 (value : Int) : Prop :=
  -2 ^ 127 ≤ value ∧ value < 2 ^ 127

/-! ## Digits -/

theorem toLower_digitChar :
    ∀ value < 16, (Nat.digitChar value).toLower = Nat.digitChar value := by
  decide

theorem isOperandChar_digitChar :
    ∀ value < 16, isOperandChar (Nat.digitChar value) = true := by
  decide

theorem isAscii_digitChar : ∀ value < 16, (Nat.digitChar value).toNat < 128 := by
  decide

theorem digit?_of_not_ascii {c : Char} (h : 128 ≤ c.toNat) : digit? 16 c = none := by
  have hle : ∀ d : Char, d.toNat < 128 → ¬ c ≤ d := by
    intro d hd hle
    rw [Char.le_def, UInt32.le_iff_toNat_le] at hle
    exact absurd (Nat.le_trans h hle) (Nat.not_le.2 hd)
  simp [digit?, hle]

/-- The reader knows the digits of base sixteen. -/
theorem digit?_sixteen_iff {c : Char} {value : Nat} (hvalue : value < 16) :
    digit? 16 c = some value ↔ c.toLower = Nat.digitChar value := by
  by_cases hc : c.toNat < 128
  · exact forall_ascii
      (p := fun c => ∀ value < 16, digit? 16 c = some value ↔
        c.toLower = Nat.digitChar value)
      (by decide) hc value hvalue
  · have hle := Nat.le_of_not_lt hc
    rw [digit?_of_not_ascii hle, toLower_of_not_ascii hle]
    refine iff_of_false (by simp) ?_
    rintro rfl
    exact hc (isAscii_digitChar value hvalue)

theorem digit?_eq_some_iff {base : Nat} (hbase : base ≤ 16) {c : Char} {value : Nat} :
    digit? base c = some value ↔ IsDigit base c value := by
  have hfilter :
      digit? base c = some value ↔ digit? 16 c = some value ∧ value < base := by
    unfold digit?
    simp only [Option.filter_eq_some_iff, decide_eq_true_eq]
    constructor
    · rintro ⟨hread, hlt⟩
      exact ⟨⟨hread, Nat.lt_of_lt_of_le hlt hbase⟩, hlt⟩
    · rintro ⟨⟨hread, -⟩, hlt⟩
      exact ⟨hread, hlt⟩
  rw [hfilter, IsDigit]
  constructor
  · rintro ⟨hread, hlt⟩
    exact ⟨hlt, (digit?_sixteen_iff (Nat.lt_of_lt_of_le hlt hbase)).1 hread⟩
  · rintro ⟨hlt, hchar⟩
    exact ⟨(digit?_sixteen_iff (Nat.lt_of_lt_of_le hlt hbase)).2 hchar, hlt⟩

theorem IsDigit.isOperandChar {base : Nat} (hbase : base ≤ 16) {c : Char} {value : Nat}
    (h : IsDigit base c value) : isOperandChar c = true := by
  rw [← isOperandChar_toLower, h.2]
  exact isOperandChar_digitChar value (Nat.lt_of_lt_of_le h.1 hbase)

theorem readDigits_eq_some_iff {base : Nat} (hbase : base ≤ 16) {digits : List Char}
    {start total : Nat} :
    readDigits base start digits = some total ↔
      ∃ values, List.Forall₂ (IsDigit base) digits values ∧
        total = values.foldl (fun total value => base * total + value) start := by
  induction digits generalizing start with
  | nil =>
      rw [readDigits, Option.some_inj]
      constructor
      · rintro rfl
        exact ⟨[], .nil, rfl⟩
      · rintro ⟨values, hvalues, rfl⟩
        cases hvalues
        rfl
  | cons c rest ih =>
      rw [readDigits]
      constructor
      · intro h
        cases hdigit : digit? base c with
        | none => simp [hdigit] at h
        | some value =>
            simp only [hdigit] at h
            obtain ⟨values, hvalues, rfl⟩ := ih.1 h
            exact ⟨value :: values,
              .cons ((digit?_eq_some_iff hbase).1 hdigit) hvalues, rfl⟩
      · rintro ⟨_, hvalues, rfl⟩
        cases hvalues with
        | cons hdigit hvalues =>
            rw [(digit?_eq_some_iff hbase).2 hdigit]
            exact ih.2 ⟨_, hvalues, rfl⟩

theorem isMagnitude_iff {base : Nat} (hbase : base ≤ 16) {digits : List Char}
    {magnitude : Nat} :
    IsMagnitude base digits magnitude ↔
      digits ≠ [] ∧ readDigits base 0 digits = some magnitude := by
  have hfold : ∀ values : List Nat, Nat.ofDigits base values.reverse =
      values.foldl (fun total value => base * total + value) 0 := by
    intro values
    rw [Nat.ofDigits_eq_foldr, List.foldr_reverse]
    simp only [Nat.cast_id, Nat.add_comm]
  simp only [IsMagnitude, readDigits_eq_some_iff hbase, hfold]

/-! ## Reading -/

theorem exists_readSign (cs : List Char) :
    ∃ sign factor digits, Sign sign factor ∧ cs = sign ++ digits ∧
      readSign cs = (decide (factor < 0), digits) := by
  unfold readSign
  split
  · exact ⟨_, _, _, .minus, rfl, rfl⟩
  · exact ⟨_, _, _, .plus, rfl, rfl⟩
  · exact ⟨_, _, _, .none, rfl, rfl⟩

/-- No digit is taken for a sign. -/
theorem readSign_append {sign digits : List Char} {factor : Int} {base magnitude : Nat}
    (hsign : Sign sign factor) (hbase : base ≤ 16)
    (hdigits : IsMagnitude base digits magnitude) :
    readSign (sign ++ digits) = (decide (factor < 0), digits) := by
  cases hsign with
  | plus => rfl
  | minus => rfl
  | none =>
      obtain ⟨-, values, hvalues, -⟩ := hdigits
      rw [List.nil_append]
      unfold readSign
      split
      · cases hvalues with
        | cons hdigit _ => exact absurd (hdigit.isOperandChar hbase) (by decide)
      · cases hvalues with
        | cons hdigit _ => exact absurd (hdigit.isOperandChar hbase) (by decide)
      · rfl

/-- What is read behind a sign. -/
theorem readInt_of_readSign {base : Nat} (hbase : base ≤ 16)
    {cs sign digits : List Char} {factor : Int} (hsign : Sign sign factor)
    (hread : readSign cs = (decide (factor < 0), digits)) {value : Int} :
    readInt base cs = some value ↔
      ∃ magnitude, IsMagnitude base digits magnitude ∧ value = factor * magnitude ∧
        Fits128 value := by
  have hbound : (twoPow 127 : Int) = 2 ^ 127 := by decide
  have hvalue : ∀ magnitude : Nat,
      (if decide (factor < 0) = true then -(magnitude : Int) else magnitude) =
        factor * magnitude := by
    intro magnitude
    cases hsign <;> simp
  simp only [isMagnitude_iff hbase]
  unfold readInt
  rw [hread]
  simp only [hvalue, hbound]
  by_cases hempty : digits = []
  · simp [hempty]
  · rw [if_neg (by simpa using hempty)]
    cases readDigits base 0 digits with
    | none => simp
    | some magnitude =>
        simp only [Bool.and_eq_true, decide_eq_true_eq]
        constructor
        · intro h
          split at h
          · rename_i hfits
            obtain rfl := Option.some.inj h
            exact ⟨magnitude, ⟨hempty, rfl⟩, rfl, hfits⟩
          · cases h
        · rintro ⟨_, ⟨-, hsame⟩, rfl, hfits⟩
          obtain rfl := Option.some.inj hsame
          exact if_pos hfits

theorem readInt_eq_some_iff {base : Nat} (hbase : base ≤ 16) {cs : List Char}
    {value : Int} :
    readInt base cs = some value ↔
      ∃ sign factor digits magnitude, Sign sign factor ∧ cs = sign ++ digits ∧
        IsMagnitude base digits magnitude ∧ value = factor * (magnitude : Int) ∧
        Fits128 value := by
  constructor
  · intro h
    obtain ⟨sign, factor, digits, hsign, hcs, hread⟩ := exists_readSign cs
    obtain ⟨magnitude, hmagnitude, hvalue, hfits⟩ :=
      (readInt_of_readSign hbase hsign hread).1 h
    exact ⟨sign, factor, digits, magnitude, hsign, hcs, hmagnitude, hvalue, hfits⟩
  · rintro ⟨sign, factor, digits, magnitude, hsign, rfl, hmagnitude, hvalue, hfits⟩
    have hread := readSign_append hsign hbase hmagnitude
    exact (readInt_of_readSign hbase hsign hread).2
      ⟨magnitude, hmagnitude, hvalue, hfits⟩

theorem exists_readBase (cs : List Char) :
    ∃ mark base rest, Mark mark base ∧ cs = mark ++ rest ∧
      readBase cs = (base, rest) := by
  unfold readBase
  split
  · exact ⟨_, _, _, .small, rfl, rfl⟩
  · exact ⟨_, _, _, .capital, rfl, rfl⟩
  · exact ⟨_, _, _, .none, rfl, rfl⟩

theorem Mark.base_le {mark : List Char} {base : Nat} (h : Mark mark base) :
    base ≤ 16 := by
  cases h <;> decide

theorem not_isDigits_mark {c : Char} (hc : c.toLower = 'x') {rest : List Char}
    {values : List Nat} : ¬ List.Forall₂ (IsDigit 10) ('0' :: c :: rest) values := by
  intro h
  cases h with
  | cons _ h =>
      cases h with
      | @cons _ value _ _ hdigit _ =>
          have hother : ∀ value < 10, 'x' ≠ Nat.digitChar value := by decide
          exact hother value hdigit.1 (hc.symm.trans hdigit.2)

/-- No decimal numeral is taken for a mark. -/
theorem readBase_append {mark sign digits : List Char} {base magnitude : Nat}
    {factor : Int} (hmark : Mark mark base) (hsign : Sign sign factor)
    (hdigits : IsMagnitude base digits magnitude) :
    readBase (mark ++ (sign ++ digits)) = (base, sign ++ digits) := by
  cases hmark with
  | small => rfl
  | capital => rfl
  | none =>
      cases hsign with
      | plus => rfl
      | minus => rfl
      | none =>
          obtain ⟨-, values, hvalues, -⟩ := hdigits
          rw [List.nil_append, List.nil_append]
          unfold readBase
          split
          · exact absurd hvalues (not_isDigits_mark rfl)
          · exact absurd hvalues (not_isDigits_mark rfl)
          · rfl

theorem readInt_readBase_iff {cs : List Char} {value : Int} :
    readInt (readBase cs).1 (readBase cs).2 = some value ↔
      IsNumeral cs value ∧ Fits128 value := by
  constructor
  · intro h
    obtain ⟨mark, base, rest, hmark, rfl, hread⟩ := exists_readBase cs
    rw [hread] at h
    obtain ⟨sign, factor, digits, magnitude, hsign, rfl, hmagnitude, rfl, hfits⟩ :=
      (readInt_eq_some_iff hmark.base_le).1 h
    exact ⟨.intro hmark hsign hmagnitude, hfits⟩
  · rintro ⟨hnumeral, hfits⟩
    cases hnumeral with
    | intro hmark hsign hmagnitude =>
        rw [readBase_append hmark hsign hmagnitude]
        exact (readInt_eq_some_iff hmark.base_le).2
          ⟨_, _, _, _, hsign, rfl, hmagnitude, rfl, hfits⟩

/-! ## Texts -/

/-- A numeral of 128 bits stands for its number. -/
theorem parse_of_isNumeral {text : String} {value : Int}
    (h : IsNumeral (trim text.toList) value) (hfits : Fits128 value) :
    parse text = ofInt value := by
  have hread := readInt_readBase_iff.2 ⟨h, hfits⟩
  unfold parse
  simp only [hread]

theorem parse_of_not_isNumeral {text : String}
    (h : ∀ value, IsNumeral (trim text.toList) value → ¬ Fits128 value) :
    parse text = .error (.invalid text) := by
  unfold parse
  cases hread :
      readInt (readBase (trim text.toList)).1 (readBase (trim text.toList)).2 with
  | none => simp only [hread]
  | some value =>
      obtain ⟨hnumeral, hfits⟩ := readInt_readBase_iff.1 hread
      exact absurd hfits (h value hnumeral)

theorem ofInt_eq_ok_iff {value : Int} {code : EventCode} :
    ofInt value = .ok code ↔ value = code.value := by
  obtain ⟨number, hlt⟩ := code
  unfold ofInt
  split
  · rw [Except.ok.injEq, EventCode.mk.injEq]
    show value.toNat = number ↔ value = (number : Int)
    omega
  · refine iff_of_false (by simp) ?_
    show ¬ value = (number : Int)
    omega

theorem ofInt_eq_error_iff {value : Int} {fault : EventCodeError} :
    ofInt value = .error fault ↔
      fault = .outOfRange value ∧ ¬ (0 ≤ value ∧ value ≤ 65535) := by
  unfold ofInt
  split
  · refine iff_of_false (by simp) ?_
    rintro ⟨-, hout⟩
    omega
  · rw [Except.error.injEq, eq_comm]
    refine (and_iff_left ?_).symm
    omega

theorem fits128_value (code : EventCode) : Fits128 code.value := by
  have hlt := code.value_lt
  constructor <;> omega

/-- A text is a numeral of a number of 128 bits, or it is not. -/
theorem parse_cases (text : String) :
    (∃ value, IsNumeral (trim text.toList) value ∧ Fits128 value ∧
      parse text = ofInt value) ∨
    (∀ value, IsNumeral (trim text.toList) value → ¬ Fits128 value) ∧
      parse text = .error (.invalid text) := by
  by_cases h : ∃ value, IsNumeral (trim text.toList) value ∧ Fits128 value
  · obtain ⟨value, hnumeral, hfits⟩ := h
    exact .inl ⟨value, hnumeral, hfits, parse_of_isNumeral hnumeral hfits⟩
  · have hnone : ∀ value, IsNumeral (trim text.toList) value → ¬ Fits128 value :=
      fun value hnumeral hfits => h ⟨value, hnumeral, hfits⟩
    exact .inr ⟨hnone, parse_of_not_isNumeral hnone⟩

theorem parse_eq_ok_iff {text : String} {code : EventCode} :
    parse text = .ok code ↔ IsNumeral (trim text.toList) code.value := by
  constructor
  · intro h
    rcases parse_cases text with ⟨value, hnumeral, -, hparse⟩ | ⟨-, hparse⟩
    · rw [hparse, ofInt_eq_ok_iff] at h
      exact h ▸ hnumeral
    · rw [hparse] at h
      cases h
  · intro h
    rw [parse_of_isNumeral h code.fits128_value, ofInt_eq_ok_iff]

theorem parse_eq_outOfRange_iff {text : String} {value : Int} :
    parse text = .error (.outOfRange value) ↔
      IsNumeral (trim text.toList) value ∧ Fits128 value ∧
      ¬ (0 ≤ value ∧ value ≤ 65535) := by
  constructor
  · intro h
    rcases parse_cases text with ⟨other, hnumeral, hfits, hparse⟩ | ⟨-, hparse⟩
    · rw [hparse, ofInt_eq_error_iff] at h
      obtain ⟨hsame, hout⟩ := h
      obtain rfl := EventCodeError.outOfRange.inj hsame
      exact ⟨hnumeral, hfits, hout⟩
    · rw [hparse] at h
      cases h
  · rintro ⟨hnumeral, hfits, hout⟩
    rw [parse_of_isNumeral hnumeral hfits, ofInt_eq_error_iff]
    exact ⟨rfl, hout⟩

theorem parse_eq_invalid_iff {text other : String} :
    parse text = .error (.invalid other) ↔ other = text ∧
      ∀ value, IsNumeral (trim text.toList) value → ¬ Fits128 value := by
  constructor
  · intro h
    rcases parse_cases text with ⟨value, -, -, hparse⟩ | ⟨hnone, hparse⟩
    · rw [hparse, ofInt_eq_error_iff] at h
      cases h.1
    · rw [hparse] at h
      cases h
      exact ⟨rfl, hnone⟩
  · rintro ⟨rfl, hnone⟩
    exact parse_of_not_isNumeral hnone

/-! ## Digits of a number -/

theorem readDigits_append (base start : Nat) (front back : List Char) :
    readDigits base start (front ++ back) =
      (readDigits base start front).bind fun value => readDigits base value back := by
  induction front generalizing start with
  | nil => rfl
  | cons c front ih =>
      rw [List.cons_append, readDigits, readDigits]
      cases digit? base c with
      | none => rfl
      | some digit => exact ih _

theorem digit?_digitChar {base value : Nat} (hbase : base ≤ 16)
    (hvalue : value < base) :
    digit? base (Nat.digitChar value) = some value :=
  (digit?_eq_some_iff hbase).2
    ⟨hvalue, toLower_digitChar value (Nat.lt_of_lt_of_le hvalue hbase)⟩

theorem readDigits_toDigits {base : Nat} (hone : 1 < base) (hbase : base ≤ 16)
    (n : Nat) :
    readDigits base 0 (Nat.toDigits base n) = some n := by
  induction n using Nat.strong_induction_on with
  | h n ih =>
      rcases Nat.lt_or_ge n base with hlt | hge
      · rw [Nat.toDigits_of_lt_base hlt, readDigits, digit?_digitChar hbase hlt]
        show some (base * 0 + n) = some n
        rw [Nat.mul_zero, Nat.zero_add]
      · have hless : n / base < n := Nat.div_lt_self (by omega) hone
        rw [Nat.toDigits_of_base_le hone hge, readDigits_append, ih _ hless,
          Option.bind_some, readDigits,
          digit?_digitChar hbase (Nat.mod_lt n (by omega))]
        show some (base * (n / base) + n % base) = some n
        rw [Nat.div_add_mod]

/-- Zeros in front do not count. -/
theorem readDigits_replicate_zero {base : Nat} (hone : 1 < base) (hbase : base ≤ 16)
    (count : Nat) (digits : List Char) :
    readDigits base 0 (List.replicate count '0' ++ digits) =
      readDigits base 0 digits := by
  have hzero : digit? base '0' = some 0 :=
    @digit?_digitChar base 0 hbase (by omega)
  induction count with
  | zero => rfl
  | succ count ih =>
      rw [List.replicate_succ, List.cons_append, readDigits, hzero]
      exact ih

theorem isMagnitude_padded {base : Nat} (hone : 1 < base) (hbase : base ≤ 16)
    (count n : Nat) :
    IsMagnitude base (List.replicate count '0' ++ Nat.toDigits base n) n := by
  rw [isMagnitude_iff hbase, readDigits_replicate_zero hone hbase,
    readDigits_toDigits hone hbase]
  exact ⟨List.append_ne_nil_of_right_ne_nil _ Nat.toDigits_ne_nil, rfl⟩

theorem isMagnitude_toDigits {base : Nat} (hone : 1 < base) (hbase : base ≤ 16)
    (n : Nat) :
    IsMagnitude base (Nat.toDigits base n) n :=
  isMagnitude_padded hone hbase 0 n

theorem isMagnitude_map_toLower {base : Nat} {digits : List Char} {magnitude : Nat} :
    IsMagnitude base (digits.map Char.toLower) magnitude ↔
      IsMagnitude base digits magnitude := by
  have hdigit : (fun c value => IsDigit base c.toLower value) = IsDigit base := by
    funext c value
    rw [IsDigit, IsDigit, toLower_toLower]
  rw [IsMagnitude, IsMagnitude, ne_eq, List.map_eq_nil_iff]
  simp only [List.forall₂_map_left_iff, hdigit]

/-! ## Written numerals -/

theorem IsMagnitude.not_blank {base : Nat} (hbase : base ≤ 16) {digits : List Char}
    {magnitude : Nat} (h : IsMagnitude base digits magnitude) :
    ∀ c ∈ digits, isBlank c = false := by
  obtain ⟨-, values, hvalues, -⟩ := h
  intro c hc
  have hdigit : ∃ value, IsDigit base c value := by
    induction hvalues with
    | nil => cases hc
    | @cons d value digits values hdigit _ ih =>
        rcases List.mem_cons.1 hc with rfl | hc
        · exact ⟨value, hdigit⟩
        · exact ih hc
  obtain ⟨value, hdigit⟩ := hdigit
  exact (isNameChar_excludes
    (Bool.or_eq_true_iff.2 (.inl (hdigit.isOperandChar hbase)))).1

theorem IsNumeral.not_blank {cs : List Char} {value : Int} (h : IsNumeral cs value) :
    ∀ c ∈ cs, isBlank c = false := by
  cases h with
  | intro hmark hsign hmagnitude =>
      refine List.forall_mem_append.2 ⟨?_, List.forall_mem_append.2 ⟨?_, ?_⟩⟩
      · cases hmark <;> simp [isBlank]
      · cases hsign <;> simp [isBlank]
      · exact hmagnitude.not_blank hmark.base_le

/-- A numeral that stands alone is what the text denotes. -/
theorem parse_ofList {cs : List Char} {value : Int} (h : IsNumeral cs value)
    (hfits : Fits128 value) : parse (String.ofList cs) = ofInt value := by
  refine parse_of_isNumeral ?_ hfits
  rwa [String.toList_ofList, trim_of_not_blank h.not_blank]

theorem isNumeral_toString (n : Int) : IsNumeral (toString n).toList n := by
  have hdigits := isMagnitude_toDigits (by decide : 1 < 10) (by decide) n.natAbs
  rw [Json.toList_toString]
  by_cases hneg : n < 0
  · have hnumeral := IsNumeral.intro .none .minus hdigits
    have hvalue : (-1 : Int) * n.natAbs = n := by omega
    rw [hvalue] at hnumeral
    rw [decide_eq_true hneg]
    exact hnumeral
  · have hnumeral := IsNumeral.intro .none .none hdigits
    have hvalue : (1 : Int) * n.natAbs = n := by omega
    rw [hvalue] at hnumeral
    rw [decide_eq_false hneg]
    exact hnumeral

theorem isNumeral_hex {digits : List Char} {n : Int} (hn : 0 ≤ n)
    (hdigits : digits.map Char.toLower = Nat.toDigits 16 n.toNat) :
    IsNumeral ('0' :: 'x' :: digits) n := by
  have hmagnitude : IsMagnitude 16 digits n.toNat := by
    rw [← isMagnitude_map_toLower, hdigits]
    exact isMagnitude_toDigits (by decide) (by decide) n.toNat
  have hnumeral := IsNumeral.intro .small .none hmagnitude
  have hvalue : (1 : Int) * n.toNat = n := by omega
  rwa [hvalue] at hnumeral

/-- The hexadecimal text of a code, however wide, is read back. -/
theorem parse_hex (code : EventCode) {width : Nat} (hwidth : width ≤ 65535) :
    ∃ text, code.hex width = some text ∧ parse text = .ok code := by
  let digits := Nat.toDigits 16 code.value
  let padded := List.replicate (width - digits.length) '0' ++ digits
  have hnumeral : IsNumeral (['0', 'x'] ++ ([] ++ padded)) ((1 : Int) * code.value) :=
    .intro .small .none (isMagnitude_padded (by decide) (by decide) _ code.value)
  rw [Int.one_mul] at hnumeral
  refine ⟨"0x" ++ String.ofList padded, ?_, ?_⟩
  · have hpad : padZeros width (String.ofList digits) =
        some (String.ofList padded) := by
      have hle : width ≤ maxWidth := hwidth
      rw [padZeros, if_pos hle, ← String.ofList_append, String.length_ofList]
    rw [hex, hpad, Option.map_some]
  · have hparse := parse_ofList hnumeral code.fits128_value
    rw [String.ofList_append] at hparse
    exact hparse.trans (ofInt_eq_ok_iff.2 rfl)

/-! ## Codes in records -/

theorem eventCode_of_text {record : Json.Fields} {text : String} {value : Int}
    (hcode : record.get? "code" = some (.string text))
    (hnumeral : IsNumeral text.toList value) (hfits : Fits128 value) :
    Document.eventCode record = (ofInt value).mapError .codeFault := by
  have htrim : IsNumeral (trim text.toList) value := by
    rwa [trim_of_not_blank hnumeral.not_blank]
  unfold Document.eventCode
  simp only [hcode]
  rw [parse_of_isNumeral htrim hfits]

theorem eventCode_of_number {record : Json.Fields} {value : Int}
    (hcode : record.get? "code" = some (.number (.integer value))) :
    Document.eventCode record = (ofInt value).mapError .codeFault := by
  unfold Document.eventCode
  simp only [hcode]

/-- **Codes are read as their numerals say.** A text without the blanks around
it is a numeral of a code and then gives this code, or it is a numeral of
another number of 128 bits and this number is reported, or it is neither and the
text itself is reported. So the hexadecimal text of a code of any width is read
back, and a whole number of a JSON text gives the same code or the same fault
whether it stands there as a number or as text, decimal or hexadecimal. -/
theorem parse_reads_numerals :
    (∀ text : String,
      (∀ code, parse text = .ok code ↔ IsNumeral (trim text.toList) code.value) ∧
      (∀ value, parse text = .error (.outOfRange value) ↔
        IsNumeral (trim text.toList) value ∧ Fits128 value ∧
          ¬ (0 ≤ value ∧ value ≤ 65535)) ∧
      (∀ other, parse text = .error (.invalid other) ↔
        other = text ∧ ∀ value, IsNumeral (trim text.toList) value → ¬ Fits128 value)) ∧
    (∀ (code : EventCode) (width : Nat), width ≤ 65535 →
      ∃ text, code.hex width = some text ∧ parse text = .ok code) ∧
    (∀ n : Int, -2 ^ 63 ≤ n → n < 2 ^ 64 →
      Json.readNumber (toString n).toList = some (.integer n, []) ∧
      ∀ number : Json.Fields, number.get? "code" = some (.number (.integer n)) →
        (∀ decimal : Json.Fields, decimal.get? "code" = some (.string (toString n)) →
          Document.eventCode decimal = Document.eventCode number) ∧
        (0 ≤ n → ∀ (hexed : Json.Fields) (digits : List Char),
          digits.map Char.toLower = Nat.toDigits 16 n.toNat →
          hexed.get? "code" = some (.string ("0x" ++ String.ofList digits)) →
          Document.eventCode hexed = Document.eventCode number)) := by
  refine ⟨fun text => ⟨?_, ?_, ?_⟩, ?_, ?_⟩
  · exact fun code => parse_eq_ok_iff
  · exact fun value => parse_eq_outOfRange_iff
  · exact fun other => parse_eq_invalid_iff
  · exact fun code width hwidth => parse_hex code hwidth
  · intro n hlow hhigh
    have hfits : Fits128 n := by
      constructor <;> omega
    refine ⟨Json.readNumber_toString hlow hhigh, ?_⟩
    intro number hnumber
    rw [eventCode_of_number hnumber]
    refine ⟨?_, ?_⟩
    · intro decimal hdecimal
      exact eventCode_of_text hdecimal (isNumeral_toString n) hfits
    · intro hn hexed digits hdigits hhexed
      have htext : ("0x" ++ String.ofList digits).toList = '0' :: 'x' :: digits := by
        rw [String.toList_append, @String.toList_ofList digits]
        rfl
      refine eventCode_of_text hhexed ?_ hfits
      rw [htext]
      exact isNumeral_hex hn hdigits

example : parse "\t0X-0 " = .ok ⟨0, by decide⟩ := by decide

end CounterTables.EventCode
