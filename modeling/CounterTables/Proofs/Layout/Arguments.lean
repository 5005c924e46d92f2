import Mathlib
import CounterTables.Proofs.Layout.Fields

/-!
# Argument lists

The arguments of a macro are what stands between the commas outside quotes. A
field that is written between commas is an argument just if it has no comma
outside its own quotes and closes every quote that it opens; any other field
takes the arguments behind it along, or falls into several. Quoted text always
is a field, spaces at the end make no difference, and bare text depends on what
it holds.

## Main results

* `splitArguments_append_comma_iff` — one field: what stands before a comma is
  the first argument just if it is a field.
* `argumentsOf_invocation_iff` — an invocation has the arguments it was written
  with just if all of them are fields.
* `isField_quote`, `isField_padded_iff`, `isField_hex4` — what is a field.
-/

namespace CounterTables.Layout

/-! ## Reading -/

/-- Whether a text ends inside quotes, read from a state. -/
def endsInside (inside escaped : Bool) : List Char → Bool
  | [] => inside
  | c :: rest =>
      endsInside (nextQuoting inside escaped c).1 (nextQuoting inside escaped c).2 rest

/-- The arguments of the macro `name`, if the line is an invocation of it. A
quote that stays open takes the closing parenthesis along, so then there is no
argument list. -/
def argumentsOf (name line : String) : Option (List String) :=
  ((name ++ "(").toList.isPrefixOf? line.toList).bind fun rest =>
    match rest.reverse with
    | ')' :: before =>
        if endsInside false false before.reverse then none
        else some ((splitArguments false false before.reverse).map String.ofList)
    | _ => none

/-! ## Fields -/

/-- Whether a text has no comma outside quotes and ends outside of them, read
from a state. -/
def isFieldFrom (inside escaped : Bool) : List Char → Bool
  | [] => !inside
  | c :: rest =>
      (inside || c != ',') &&
        isFieldFrom (nextQuoting inside escaped c).1
          (nextQuoting inside escaped c).2 rest

/-- The text may stand between commas: it has no comma outside quotes, and all
its quotes are closed. -/
def IsField (text : String) : Prop :=
  isFieldFrom false false text.toList = true

instance (text : String) : Decidable (IsField text) :=
  inferInstanceAs (Decidable (_ = true))

/-! ## Cutting -/

theorem splitArguments_comma (escaped : Bool) (rest : List Char) :
    splitArguments false escaped (',' :: rest) =
      [] :: splitArguments false false rest := by
  rw [splitArguments]
  rfl

/-- A character that is no comma outside quotes belongs to the first
argument. -/
theorem splitArguments_cons {inside escaped : Bool} {c : Char}
    (h : (inside || c != ',') = true) (rest : List Char) :
    splitArguments inside escaped (c :: rest) =
      match splitArguments (nextQuoting inside escaped c).1
        (nextQuoting inside escaped c).2 rest with
      | field :: fields => (c :: field) :: fields
      | [] => [[c]] := by
  have hkeep : ¬(c == ',' && !inside) = true := by
    cases inside <;> simp_all
  have hstep := splitArguments.eq_2 inside escaped c rest
  rw [if_neg hkeep] at hstep
  exact hstep

theorem splitArguments_ne_nil (inside escaped : Bool) (cs : List Char) :
    splitArguments inside escaped cs ≠ [] := by
  cases cs with
  | nil => exact List.cons_ne_nil _ _
  | cons c rest =>
      rw [splitArguments]
      split
      · exact List.cons_ne_nil _ _
      · dsimp only
        split <;> exact List.cons_ne_nil _ _

/-- Only a comma outside quotes ends the first argument before its text. -/
theorem splitArguments_cons_eq_iff {inside escaped : Bool} {c : Char}
    {cs rest : List Char} {more : List (List Char)} :
    splitArguments inside escaped (c :: rest) = (c :: cs) :: more ↔
      (inside || c != ',') = true ∧
        splitArguments (nextQuoting inside escaped c).1
          (nextQuoting inside escaped c).2 rest =
          cs :: more := by
  by_cases h : (inside || c != ',') = true
  · rw [splitArguments_cons h, and_iff_right h]
    cases hrest : splitArguments (nextQuoting inside escaped c).1
        (nextQuoting inside escaped c).2 rest with
    | nil => exact absurd hrest (splitArguments_ne_nil _ _ _)
    | cons field fields => simp
  · obtain ⟨rfl, rfl⟩ : inside = false ∧ c = ',' := by simpa using h
    rw [splitArguments_comma]
    simp

/-- What stands before a comma is the first argument just if it is a field; the
comma then is the one that ends it. -/
theorem splitArguments_append_comma_iff {inside escaped : Bool} {cs rest : List Char}
    {more : List (List Char)} :
    splitArguments inside escaped (cs ++ ',' :: rest) = cs :: more ↔
      isFieldFrom inside escaped cs = true ∧
        splitArguments false false rest = more := by
  induction cs generalizing inside escaped with
  | nil =>
      cases inside with
      | false =>
          rw [List.nil_append, splitArguments_comma]
          simp [isFieldFrom]
      | true =>
          -- the comma stands in quotes, so it belongs to the first argument
          rw [List.nil_append, splitArguments_cons rfl]
          simp only [isFieldFrom]
          split <;> simp
  | cons c cs ih =>
      rw [List.cons_append, splitArguments_cons_eq_iff, ih, isFieldFrom,
        Bool.and_eq_true, and_assoc]

/-- A text is its own only argument, and closes its quotes, just if it is a
field. -/
theorem splitArguments_eq_singleton_iff {inside escaped : Bool} {cs : List Char} :
    splitArguments inside escaped cs = [cs] ∧ endsInside inside escaped cs = false ↔
      isFieldFrom inside escaped cs = true := by
  induction cs generalizing inside escaped with
  | nil => cases inside <;> simp [splitArguments, endsInside, isFieldFrom]
  | cons c cs ih =>
      rw [splitArguments_cons_eq_iff, endsInside, and_assoc, ih, isFieldFrom,
        Bool.and_eq_true]

/-- Behind a field and its comma the text ends as it would on its own. -/
theorem endsInside_append_comma {inside escaped : Bool} {cs : List Char}
    (h : isFieldFrom inside escaped cs = true) (rest : List Char) :
    endsInside inside escaped (cs ++ ',' :: rest) = endsInside false false rest := by
  induction cs generalizing inside escaped with
  | nil =>
      obtain rfl : inside = false := by simpa [isFieldFrom] using h
      rfl
  | cons c cs ih =>
      rw [isFieldFrom, Bool.and_eq_true] at h
      exact ih h.2

/-- Fields with commas between them are read back just if all of them are
fields. -/
theorem splitArguments_intercalate_iff {fields : List (List Char)} (hne : fields ≠ []) :
    splitArguments false false ([','].intercalate fields) = fields ∧
        endsInside false false ([','].intercalate fields) = false ↔
      ∀ field ∈ fields, isFieldFrom false false field = true := by
  induction fields with
  | nil => exact absurd rfl hne
  | cons field more ih =>
      cases more with
      | nil =>
          rw [List.intercalate_singleton, splitArguments_eq_singleton_iff,
            List.forall_mem_singleton]
      | cons next others =>
          rw [List.intercalate_cons_cons, List.append_assoc, List.singleton_append,
            splitArguments_append_comma_iff, List.forall_mem_cons,
            ← ih (List.cons_ne_nil _ _), and_assoc]
          refine and_congr_right fun hfield => ?_
          rw [endsInside_append_comma hfield]

/-! ## Invocations -/

theorem map_ofList_eq_iff {pieces : List (List Char)} {texts : List String} :
    pieces.map String.ofList = texts ↔ pieces = texts.map String.toList := by
  constructor
  · rintro rfl
    simp [Function.comp_def]
  · rintro rfl
    simp [Function.comp_def]

/-- An invocation has the arguments it was written with just if all of them are
fields. -/
theorem argumentsOf_invocation_iff {name : String} {fields : List String}
    (hne : fields ≠ []) :
    argumentsOf name (invocation name fields) = some fields ↔
      ∀ field ∈ fields, IsField field := by
  have htext : (invocation name fields).toList =
      (name ++ "(").toList ++
        ([','].intercalate (fields.map String.toList) ++ [')']) := by
    simp [invocation, String.toList_intercalate]
  have hreverse : ([','].intercalate (fields.map String.toList) ++ [')']).reverse =
      ')' :: ([','].intercalate (fields.map String.toList)).reverse := by
    rw [List.reverse_append]
    rfl
  have hfields : fields.map String.toList ≠ [] := by simpa using hne
  have hiff := splitArguments_intercalate_iff hfields
  rw [List.forall_mem_map] at hiff
  simp only [IsField]
  rw [← hiff, argumentsOf, htext, isPrefixOf?_append, Option.bind_some, hreverse]
  simp only [List.reverse_reverse]
  generalize [','].intercalate (fields.map String.toList) = text
  cases hends : endsInside false false text with
  | true => simp
  | false =>
      simp only [Bool.false_eq_true, if_false, Option.some.injEq, map_ofList_eq_iff,
        and_true]

/-! ## What is a field -/

/-- Between quotes an escaped text ends at the closing quote. -/
theorem isFieldFrom_encode (cs rest : List Char) :
    isFieldFrom true false (encode cs ++ '"' :: rest) =
      isFieldFrom false false rest := by
  induction cs with
  | nil => rfl
  | cons c cs ih =>
      have hencode : encode (c :: cs) = escape c ++ encode cs := by simp [encode]
      have hescape : isFieldFrom true false (escape c ++ (encode cs ++ '"' :: rest)) =
          isFieldFrom true false (encode cs ++ '"' :: rest) := by
        unfold escape
        split
        · rfl
        split
        · rfl
        split
        · rfl
        · rename_i hslash hquote hline
          have hnext : nextQuoting true false c = (true, false) := by
            simp [nextQuoting, hslash, hquote]
          simp [isFieldFrom, hnext]
      rw [hencode, List.append_assoc, hescape, ih]

/-- Quoted text is a field, whatever it holds. -/
theorem isField_quote (text : String) : IsField (quote text) := by
  have htext : (quote text).toList = '"' :: (encode text.toList ++ ['"']) := by
    simp [quote]
  rw [IsField, htext]
  exact isFieldFrom_encode text.toList []

theorem isFieldFrom_append_spaces {inside escaped : Bool} (cs : List Char)
    (spaces : Nat) :
    isFieldFrom inside escaped (cs ++ List.replicate spaces ' ') =
      isFieldFrom inside escaped cs := by
  induction cs generalizing inside escaped with
  | nil =>
      rw [List.nil_append]
      induction spaces generalizing escaped with
      | zero => rfl
      | succ spaces ih =>
          rw [List.replicate_succ, isFieldFrom]
          cases inside <;> cases escaped <;> exact ih
  | cons c cs ih => rw [List.cons_append, isFieldFrom, ih, isFieldFrom]

/-- Spaces behind a text make no difference. -/
theorem isField_padded_iff {width : Nat} {text : String} :
    IsField (padded width text) ↔ IsField text := by
  rw [IsField, padded, String.toList_append, String.toList_ofList,
    isFieldFrom_append_spaces]
  rfl

/-- Text without commas and quotes is a field. -/
theorem isField_of_plain {text : String} (hcomma : ',' ∉ text.toList)
    (hquote : '"' ∉ text.toList) : IsField text := by
  unfold IsField
  generalize text.toList = cs at hcomma hquote ⊢
  induction cs with
  | nil => rfl
  | cons c cs ih =>
      rw [List.mem_cons, not_or] at hcomma hquote
      have hnext : nextQuoting false false c = (false, false) := by
        simp [nextQuoting, Ne.symm hquote.1]
      have hkeep : (c != ',') = true := by simpa using Ne.symm hcomma.1
      rw [isFieldFrom, hnext, hkeep]
      exact ih hcomma.2 hquote.2

/-! ## Codes -/

theorem exists_digitChar_of_mem_toDigits {base value : Nat} (hbase : 1 < base)
    {c : Char}
    (hc : c ∈ Nat.toDigits base value) : ∃ digit < base, c = Nat.digitChar digit := by
  induction value using Nat.strong_induction_on with
  | _ value ih =>
      rcases Nat.lt_or_ge value base with hlt | hge
      · rw [Nat.toDigits_of_lt_base hlt, List.mem_singleton] at hc
        exact ⟨value, hlt, hc⟩
      · rw [Nat.toDigits_of_base_le hbase hge, List.mem_append,
          List.mem_singleton] at hc
        rcases hc with hc | hc
        · exact ih (value / base) (Nat.div_lt_self (by omega) hbase) hc
        · exact ⟨value % base, Nat.mod_lt _ (by omega), hc⟩

theorem isAlphanum_digitChar :
    ∀ digit < 16, (Nat.digitChar digit).isAlphanum = true := by
  decide

theorem isAlphanum_of_mem_hex4 {code : EventCode} {c : Char}
    (h : c ∈ code.hex4.toList) : c.isAlphanum = true := by
  have htext : code.hex4.toList = ['0', 'x'] ++
      (List.replicate (4 - (Nat.toDigits 16 code.value).length) '0' ++
        Nat.toDigits 16 code.value) := by
    simp [EventCode.hex4]
  rw [htext, List.mem_append, List.mem_append] at h
  rcases h with hmark | hzero | hdigit
  · rcases List.mem_pair.1 hmark with rfl | rfl <;> decide
  · rw [List.eq_of_mem_replicate hzero]
    decide
  · obtain ⟨digit, hlt, rfl⟩ := exists_digitChar_of_mem_toDigits (by decide) hdigit
    exact isAlphanum_digitChar digit hlt

theorem isField_hex4 (code : EventCode) : IsField code.hex4 := by
  refine isField_of_plain ?_ ?_ <;> intro hmem <;>
    exact absurd (isAlphanum_of_mem_hex4 hmem) (by decide)

end CounterTables.Layout
