import Mathlib
import CounterTables.Json.Numeral

/-!
# Whole numbers in JSON text

The decimal digits of a whole number that fits 64 bits, with a sign or without,
are read as this number: nothing of it goes through binary64, whichever of the
two ranges it lies in.

## Main results

* `toList_toString` — the decimal text of a number, as a sign and digits.
* `wholeNumber_toDigits` — the digits of a number stay a whole number.
* `readNumber_toString` — the decimal text of a number is read as the number.
-/

namespace CounterTables.Json

open CounterTables.Number (ofDigits twoPow)

theorem head?_toDigits {n : Nat} (hn : n ≠ 0) :
    (Nat.toDigits 10 n).head? ≠ some '0' := by
  induction n using Nat.strong_induction_on with
  | h n ih =>
      rcases Nat.lt_or_ge n 10 with hlt | hge
      · rw [Nat.toDigits_of_lt_base hlt]
        have hdigit : ∀ n < 10, n ≠ 0 → Nat.digitChar n ≠ '0' := by decide
        exact fun hzero => hdigit n hlt hn (Option.some.inj hzero)
      · rw [Nat.toDigits_of_base_le (by decide) hge,
          List.head?_append_of_ne_nil _ Nat.toDigits_ne_nil]
        exact ih (n / 10) (Nat.div_lt_self (by omega) (by decide)) (by omega)

theorem ofDigits_toDigits (n : Nat) : ofDigits (Nat.toDigits 10 n) = n := by
  have hfold : ofDigits (Nat.toDigits 10 n) =
      Nat.ofDigitChars 10 (Nat.toDigits 10 n) 0 := by
    rw [Nat.ofDigitChars_eq_foldl]
    rfl
  rw [hfold, Nat.ofDigitChars_ten_toDigits]

theorem all_isDigit_toDigits (n : Nat) : ∀ c ∈ Nat.toDigits 10 n, c.isDigit = true :=
  fun _ hc => Nat.isDigit_of_mem_toDigits (by decide) (by decide) hc

/-- A zero in front of other digits is refused, and the digits of a number have
none. -/
theorem not_padded_toDigits (n : Nat) :
    ((Nat.toDigits 10 n).isEmpty ||
      ((Nat.toDigits 10 n).head? == some '0' &&
        decide (1 < (Nat.toDigits 10 n).length))) =
        false := by
  have hempty : (Nat.toDigits 10 n).isEmpty = false := by
    rw [List.isEmpty_eq_false_iff]
    exact Nat.toDigits_ne_nil
  rw [hempty, Bool.false_or]
  by_cases hn : n = 0
  · rw [hn]
    rfl
  · rw [beq_false_of_ne (head?_toDigits hn), Bool.false_and]

/-- A run of digits without padding is a whole number. -/
theorem readNumber_toDigits (negative : Bool) (n : Nat) :
    readNumber ((if negative then ['-'] else []) ++ Nat.toDigits 10 n) =
      (wholeNumber negative (Nat.toDigits 10 n)).map fun number => (number, []) := by
  have hdigits := all_isDigit_toDigits n
  have htake : (Nat.toDigits 10 n).takeWhile Char.isDigit = Nat.toDigits 10 n :=
    List.takeWhile_eq_self_iff.2 hdigits
  have hdrop : (Nat.toDigits 10 n).dropWhile Char.isDigit = [] :=
    List.dropWhile_eq_nil_iff.2 hdigits
  have hpadded := not_padded_toDigits n
  cases negative with
  | true =>
      unfold readNumber
      simp only [if_true, List.cons_append, List.nil_append, htake, hdrop, hpadded]
      rfl
  | false =>
      unfold readNumber
      rw [if_neg Bool.false_ne_true, List.nil_append]
      split
      rename_i hsign
      split at hsign
      · rename_i rest hminus
        have hdigit := hdigits '-' (by rw [hminus]; exact List.mem_cons_self)
        exact absurd hdigit (by decide)
      · obtain ⟨rfl, rfl⟩ := Prod.mk.inj hsign
        simp only [htake, hdrop, hpadded]
        rfl

/-- Digits of a number of 64 bits with sign, or of one without, are no binary64
number. -/
theorem wholeNumber_toDigits {n : Int} (hlow : -2 ^ 63 ≤ n) (hhigh : n < 2 ^ 64) :
    wholeNumber (decide (n < 0)) (Nat.toDigits 10 n.natAbs) = some (.integer n) := by
  have hsigned : twoPow 63 = 2 ^ 63 := by decide
  have hword : wordBound = 2 ^ 64 := by decide
  unfold wholeNumber
  simp only [ofDigits_toDigits, hsigned, hword]
  by_cases hneg : n < 0
  · have hfits : (decide (0 < n.natAbs) && decide (n.natAbs ≤ 2 ^ 63)) = true := by
      rw [Bool.and_eq_true, decide_eq_true_eq, decide_eq_true_eq]
      omega
    have hvalue : -(n.natAbs : Int) = n := by omega
    rw [decide_eq_true hneg, if_pos rfl, if_pos hfits, hvalue]
  · have hfits : n.natAbs < 2 ^ 64 := by omega
    have hvalue : (n.natAbs : Int) = n := by omega
    rw [decide_eq_false hneg, if_neg Bool.false_ne_true, if_pos hfits, hvalue]

theorem toList_toString (n : Int) :
    (toString n).toList =
      (if decide (n < 0) then ['-'] else []) ++ Nat.toDigits 10 n.natAbs := by
  rw [Int.toString_eq_repr, Int.repr_eq_if]
  by_cases hneg : n < 0
  · have habs : (-n).toNat = n.natAbs := by omega
    rw [if_neg (Int.not_le.2 hneg), decide_eq_true hneg, if_pos rfl,
      String.toList_append, Nat.toList_repr, habs]
    rfl
  · have habs : n.toNat = n.natAbs := by omega
    rw [if_pos (Int.not_lt.1 hneg), decide_eq_false hneg, if_neg Bool.false_ne_true,
      Nat.toList_repr, habs]
    rfl

/-- The decimal text of a number of 64 bits is read as that number. -/
theorem readNumber_toString {n : Int} (hlow : -2 ^ 63 ≤ n) (hhigh : n < 2 ^ 64) :
    readNumber (toString n).toList = some (.integer n, []) := by
  rw [toList_toString, readNumber_toDigits, wholeNumber_toDigits hlow hhigh]
  rfl

end CounterTables.Json
