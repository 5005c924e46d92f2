import CounterTables.Text.CaseTable
import CounterTables.Text.LetterTable

/-!
# Letters and their case

Letters and digits of all scripts are told from other characters by a table.

Case mapping is that of Unicode in full: a character may become several.
Lower-casing looks at the context in one place only: a capital sigma that ends a
word becomes a final sigma. It ends a word if, ignorable characters aside, a
cased character comes before it and none comes after it.

## Main definitions

* `isAlphanumeric` — letters and digits.
* `upperChar`, `lowerChar` — the images of one character.
* `upper`, `lower` — the case maps on text.

## Main statements

* `lowerChar_of_ascii`, `upperChar_of_ascii` — ASCII characters have ASCII
  images.
* `lower_of_ascii` — on ASCII text lower-casing goes character by character.
* `comma_mem_lower_iff` — lower-casing keeps commas and makes none.
-/

namespace CounterTables.Text

/-! ## Characters of ASCII -/

/-- What holds of the first 128 characters holds of every ASCII character. -/
theorem forall_ascii {p : Char → Prop} (h : ∀ n < 128, p (Char.ofNat n))
    {c : Char} (hc : c.toNat < 128) : p c := by
  have hp := h c.toNat hc
  rwa [Char.ofNat_toNat] at hp

/-! ## Looking up the tables -/

/-- Whether a code point lies in one of the closed ranges. -/
def inRanges (ranges : List (Nat × Nat)) (code : Nat) : Bool :=
  ranges.any fun (first, last) => first ≤ code && code ≤ last

/-- Whether a character is a letter or a digit of some script. -/
def isAlphanumeric (c : Char) : Bool :=
  if c.toNat < 128 then c.isAlphanum else inRanges LetterTable.ranges c.toNat

/-- The image of a code point under the runs of a simple case map, if one covers
it. -/
def runImage? (runs : List (Nat × Nat × Nat × Int)) (code : Nat) : Option Nat :=
  runs.findSome? fun (first, last, step, shift) =>
    if first ≤ code && code ≤ last && (code - first) % step == 0 then
      some ((code : Int) + shift).toNat
    else none

/-- The image of a character outside ASCII. -/
def tableImage (sequences : List (Nat × List Nat)) (runs : List (Nat × Nat × Nat × Int))
    (c : Char) : List Char :=
  match sequences.lookup c.toNat with
  | some image => image.map Char.ofNat
  | none =>
      match runImage? runs c.toNat with
      | some code => [Char.ofNat code]
      | none => [c]

/-! ## Characters -/

def lowerChar (c : Char) : List Char :=
  if c.toNat < 128 then [c.toLower]
  else tableImage CaseTable.lowerSequences CaseTable.lowerRuns c

def upperChar (c : Char) : List Char :=
  if c.toNat < 128 then [c.toUpper]
  else tableImage CaseTable.upperSequences CaseTable.upperRuns c

theorem lowerChar_of_ascii {c : Char} (h : c.toNat < 128) :
    lowerChar c = [c.toLower] := by
  simp [lowerChar, h]

theorem upperChar_of_ascii {c : Char} (h : c.toNat < 128) :
    upperChar c = [c.toUpper] := by
  simp [upperChar, h]

/-! ## Final sigma -/

/-- Whether the first character that is not ignorable is cased. -/
def meetsCased (cs : List Char) : Bool :=
  match cs.dropWhile fun c => inRanges CaseTable.ignorableRanges c.toNat with
  | c :: _ => inRanges CaseTable.casedRanges c.toNat
  | [] => false

/-- The lower case of a capital sigma between `before`, nearest character first,
and `after`. -/
def lowerSigma (before after : List Char) : Char :=
  if meetsCased before && !meetsCased after then 'ς' else 'σ'

/-! ## Text -/

def upper (cs : List Char) : List Char :=
  cs.flatMap upperChar

/-- Lower-cases what follows `before`, behind the images in `done`; both have
the latest first. -/
def lowerFrom (before done : List Char) : List Char → List Char
  | [] => done.reverse
  | c :: rest =>
      let image := if c = 'Σ' then [lowerSigma before rest] else lowerChar c
      lowerFrom (c :: before) (image.reverse ++ done) rest

def lower (cs : List Char) : List Char :=
  lowerFrom [] [] cs

/-- The upper case of a name. -/
def upperText (text : String) : String :=
  String.ofList (upper text.toList)

/-- The lower case of a name. -/
def lowerText (text : String) : String :=
  String.ofList (lower text.toList)

theorem lowerFrom_of_ascii {cs : List Char} (h : ∀ c ∈ cs, c.toNat < 128)
    (before done : List Char) :
    lowerFrom before done cs = done.reverse ++ cs.map Char.toLower := by
  induction cs generalizing before done with
  | nil => simp [lowerFrom]
  | cons c rest ih =>
      have hc : c.toNat < 128 := h c List.mem_cons_self
      have hne : c ≠ 'Σ' := by
        rintro rfl
        exact absurd hc (by decide)
      have hrest : ∀ d ∈ rest, d.toNat < 128 :=
        fun d hd => h d (List.mem_cons_of_mem _ hd)
      simp [lowerFrom, hne, lowerChar_of_ascii hc, ih hrest]

theorem lower_of_ascii {cs : List Char} (h : ∀ c ∈ cs, c.toNat < 128) :
    lower cs = cs.map Char.toLower := by
  simp [lower, lowerFrom_of_ascii h]

/-! ## Commas -/

theorem lt_of_mem_lowerRuns :
    ∀ run ∈ CaseTable.lowerRuns, 44 < (run.1 : Int) + run.2.2.2 := by
  decide +kernel

theorem not_mem_lowerSequences :
    ∀ entry ∈ CaseTable.lowerSequences, 44 ∉ entry.2 := by
  decide

theorem eq_of_ofNat_eq_comma {code : Nat} (h : Char.ofNat code = ',') : code = 44 := by
  by_cases hvalid : code.isValidChar
  · rw [Char.ofNat, dif_pos hvalid] at h
    exact congrArg Char.toNat h
  · rw [Char.ofNat, dif_neg hvalid] at h
    cases h

theorem comma_not_mem_tableImage {c : Char} (hc : c ≠ ',') :
    ',' ∉ tableImage CaseTable.lowerSequences CaseTable.lowerRuns c := by
  unfold tableImage
  split
  · rename_i image himage
    intro hmem
    obtain ⟨code, hcode, heq⟩ := List.mem_map.1 hmem
    obtain ⟨before, after, hsplit, -⟩ := List.lookup_eq_some_iff.1 himage
    have hentry : (c.toNat, image) ∈ CaseTable.lowerSequences := by
      rw [hsplit]
      exact List.mem_append_right before List.mem_cons_self
    exact not_mem_lowerSequences _ hentry (eq_of_ofNat_eq_comma heq ▸ hcode)
  split
  · rename_i code hcode
    intro hmem
    have hcomma := eq_of_ofNat_eq_comma (List.mem_singleton.1 hmem).symm
    obtain ⟨run, hrun, himage⟩ := List.exists_of_findSome?_eq_some hcode
    obtain ⟨first, last, stride, shift⟩ := run
    have hfirst : 44 < (first : Int) + shift := lt_of_mem_lowerRuns _ hrun
    dsimp only at himage
    split at himage
    · rename_i hcovers
      simp only [Bool.and_eq_true, decide_eq_true_eq] at hcovers
      have hshift := Option.some.inj himage
      omega
    · cases himage
  · exact fun hmem => hc (List.mem_singleton.1 hmem).symm

theorem comma_mem_lowerChar_iff {c : Char} : ',' ∈ lowerChar c ↔ c = ',' := by
  unfold lowerChar
  split
  · rename_i hascii
    rw [List.mem_singleton, eq_comm]
    exact forall_ascii (p := fun c => c.toLower = ',' ↔ c = ',') (by decide) hascii
  · rename_i hascii
    have hc : c ≠ ',' := by
      rintro rfl
      exact hascii (by decide)
    exact iff_of_false (comma_not_mem_tableImage hc) hc

/-- Lower-casing keeps the commas of what follows and makes no others. -/
theorem comma_mem_lowerFrom_iff {before done cs : List Char} :
    ',' ∈ lowerFrom before done cs ↔ ',' ∈ done ∨ ',' ∈ cs := by
  induction cs generalizing before done with
  | nil => simp [lowerFrom]
  | cons c rest ih =>
      have himage : ',' ∈ (if c = 'Σ' then [lowerSigma before rest] else lowerChar c) ↔
          ',' = c := by
        split
        · subst c
          unfold lowerSigma
          split <;> decide
        · rw [comma_mem_lowerChar_iff, eq_comm]
      simp only [lowerFrom]
      rw [ih, List.mem_append, List.mem_reverse, himage, List.mem_cons, or_assoc,
        or_left_comm]

theorem comma_mem_lower_iff {cs : List Char} : ',' ∈ lower cs ↔ ',' ∈ cs := by
  simp [lower, comma_mem_lowerFrom_iff]

end CounterTables.Text
