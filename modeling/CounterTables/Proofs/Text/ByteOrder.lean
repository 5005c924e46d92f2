import Mathlib
import CounterTables.Text.Utf8

/-!
# The order of bytes

Texts are compared character by character, by code point, while files and other
programs compare their bytes. UTF-8 makes no difference between the two: a
smaller character has the smaller bytes wherever its bytes first differ from
those of a larger one.

## Main results

* `encode_lt_encode` — the bytes of texts are ordered as the texts are.
-/

namespace CounterTables.Text.Utf8

theorem encode_eq_flatMap (text : String) :
    encode text = text.toList.flatMap String.utf8EncodeChar := by
  rw [encode, String.toUTF8_eq_toByteArray, ← String.utf8Encode_toList,
    List.utf8Encode, List.toList_data_toByteArray]

/-- The bytes of a smaller character are smaller, whatever follows them. The
cases are the numbers of bytes that the two characters take. -/
theorem utf8EncodeChar_append_lt {c d : Char} (h : c < d) (xs ys : List UInt8) :
    String.utf8EncodeChar c ++ xs < String.utf8EncodeChar d ++ ys := by
  have hlt : c.val.toNat < d.val.toNat := h
  have hmax : d.val.toNat < 0x110000 := by
    have hvalid := d.valid
    unfold UInt32.isValidChar Nat.isValidChar at hvalid
    omega
  -- all that a byte holds fits it
  have hnext : ∀ n, (n % 64 + 128) % 2 ^ 8 = n % 64 + 128 := by omega
  have hfirst2 : ∀ n, (n % 32 + 192) % 2 ^ 8 = n % 32 + 192 := by omega
  have hfirst3 : ∀ n, (n % 16 + 224) % 2 ^ 8 = n % 16 + 224 := by omega
  have hfirst4 : ∀ n, (n % 8 + 240) % 2 ^ 8 = n % 8 + 240 := by omega
  -- digits of base 64 one by one, as `omega` can follow them
  have hdiv2 : ∀ n : Nat, n / 4096 = n / 64 / 64 :=
    fun n => (Nat.div_div_eq_div_mul n 64 64).symm
  have hdiv3 : ∀ n : Nat, n / 262144 = n / 64 / 64 / 64 := by
    intro n
    rw [Nat.div_div_eq_div_mul, Nat.div_div_eq_div_mul]
  unfold String.utf8EncodeChar
  generalize c.val.toNat = v at hlt ⊢
  generalize d.val.toNat = w at hlt hmax ⊢
  dsimp only
  split_ifs
  all_goals
    simp only [List.cons_append, List.nil_append, List.cons_lt_cons_iff,
      UInt8.lt_iff_toNat_lt, ← UInt8.toNat_inj, UInt8.toNat_ofNat', hnext,
      hfirst2, hfirst3, hfirst4, hdiv2, hdiv3]
    omega

theorem utf8EncodeChar_ne_nil (c : Char) : String.utf8EncodeChar c ≠ [] := by
  unfold String.utf8EncodeChar
  dsimp only
  split_ifs <;> exact List.cons_ne_nil _ _

theorem flatMap_utf8EncodeChar_lt {cs ds : List Char} (h : cs < ds) :
    cs.flatMap String.utf8EncodeChar < ds.flatMap String.utf8EncodeChar := by
  induction cs generalizing ds with
  | nil =>
      cases ds with
      | nil => exact absurd h (List.lt_irrefl [])
      | cons d ds =>
          obtain ⟨b, bs, hd⟩ := List.exists_cons_of_ne_nil (utf8EncodeChar_ne_nil d)
          rw [List.flatMap_nil, List.flatMap_cons, hd]
          exact List.nil_lt_cons _ _
  | cons c cs ih =>
      cases ds with
      | nil => exact absurd h (List.not_lt_nil _)
      | cons d ds =>
          rw [List.flatMap_cons, List.flatMap_cons]
          rcases List.cons_lt_cons_iff.1 h with hlt | ⟨rfl, hrest⟩
          · exact utf8EncodeChar_append_lt hlt _ _
          · exact List.append_left_lt (ih hrest)

/-- The bytes of texts are ordered as the texts are. -/
theorem encode_lt_encode {text text' : String} (h : text < text') :
    encode text < encode text' := by
  rw [encode_eq_flatMap, encode_eq_flatMap]
  exact flatMap_utf8EncodeChar_lt (String.lt_iff.1 h)

end CounterTables.Text.Utf8
