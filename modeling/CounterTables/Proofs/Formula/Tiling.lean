import Mathlib
import CounterTables.Proofs.Formula.Spelling
import CounterTables.Proofs.Text.ByteOrder

/-!
# Tokens tile their formula

A text that is cut into tokens consists of these and of blanks. `Cuts` is the
scan seen from outside: a blank is passed, and any other part of the text is a
token that is written there, an operand being the longest one with which the
rest of the text begins. All that is said below about tokens and offsets is one
induction on this relation, with three short cases.

Offsets are byte offsets. Nothing but ASCII is passed, so the characters that
the scan counts are the bytes of the text, and each offset at which the text is
cut lies between two characters.

## Main results

* `exists_longestOperand` — the scan takes the longest operand.
* `Scans.cuts` — the scan cuts the text.
* `Cuts.exists_split`, `Cuts.apart`, `Cuts.isAsciiBlank` — where the tokens are,
  that they do not overlap, and what lies between them.
* `scan_eq_error` — a scan that stops has cut all that comes before.
* `tokens_tile_source` — either the tokens tile the source, or the first
  character at which neither a blank nor a token starts is reported.
-/

namespace CounterTables.Formula

open CounterTables.Text (forall_ascii isAsciiBlank)
open CounterTables.Text.Utf8 (encode encode_eq_flatMap)

/-! ## Longest operands -/

/-- The text goes on with an operand, then with `back`, and with no longer
operand. -/
structure LongestOperand (written back : List Char) : Prop where
  isOperand : IsOperand written
  longest : ∀ other, IsOperand other → other <+: written ++ back →
    other.length ≤ written.length

/-- Where the scan finds an operand, it takes the longest. -/
theorem exists_longestOperand {c : Char} (hc : isOperandChar c = true)
    (cs : List Char) :
    ∃ more back, cs = more ++ back ∧ operandLength c.isDigit 0 cs = more.length ∧
      StopsWord back ∧ LongestOperand (c :: more) back := by
  obtain ⟨more, back, rfl, hlength, hoperand, hstops⟩ := exists_operand_split hc cs
  refine ⟨more, back, rfl, hlength, hstops, hoperand, ?_⟩
  rintro other hother ⟨rest, hrest⟩
  obtain ⟨d, word, rfl, -⟩ := hother.exists_cons
  rw [List.cons_append, List.cons_append] at hrest
  obtain ⟨rfl, htext⟩ := List.cons.inj hrest
  obtain ⟨point, hreach⟩ := hother.exists_operandLength rest
  rw [htext, hlength] at hreach
  exact Nat.succ_le_succ (hreach ▸ Nat.le_add_right _ _)

theorem IsOperand.isNameChar {cs : List Char} (h : IsOperand cs) :
    ∀ c ∈ cs, isNameChar c = true := by
  cases h with
  | word _ hchars => exact fun c hc => Bool.or_eq_true_iff.2 (.inl (hchars c hc))
  | @decimal whole fraction _ _ hchars =>
      intro c hc
      rw [List.mem_append, List.mem_cons, or_left_comm] at hc
      rcases hc with rfl | hc
      · rfl
      · exact Bool.or_eq_true_iff.2 (.inl (hchars c (List.mem_append.2 hc)))

/-! ## Tokens in a text -/

/-- What is written stands for the lexeme, where the text goes on with
`back`. -/
inductive Lexeme.IsCut : Lexeme → List Char → List Char → Prop
  | operand {written back : List Char} :
      LongestOperand written back → IsCut (.operand (asciiLower written)) written back
  /-- Operators and parentheses are one character. -/
  | symbol {c : Char} {lexeme : Lexeme} {back : List Char} :
      Lexeme.ofChar? c = some lexeme → IsCut lexeme [c] back

theorem asciiLower_of_ofChar? {c : Char} {lexeme : Lexeme}
    (h : Lexeme.ofChar? c = some lexeme) : asciiLower [c] = lexeme.text := by
  unfold Lexeme.ofChar? at h
  split at h
  · subst c
    obtain rfl := Option.some.inj h
    rfl
  split at h
  · subst c
    obtain rfl := Option.some.inj h
    rfl
  obtain ⟨op, hop, rfl⟩ := Option.map_eq_some_iff.1 h
  rw [Operator.ofChar?_eq_some_iff.1 hop]
  cases op <;> rfl

namespace Lexeme.IsCut

variable {lexeme : Lexeme} {written back : List Char}

theorem asciiLower_eq (h : lexeme.IsCut written back) :
    asciiLower written = lexeme.text := by
  cases h with
  | operand _ => rfl
  | symbol hlexeme => exact asciiLower_of_ofChar? hlexeme

theorem isAscii (h : lexeme.IsCut written back) : ∀ c ∈ written, c.toNat < 128 := by
  cases h with
  | operand hlongest =>
      exact fun c hc => isAscii_of_isNameChar (hlongest.isOperand.isNameChar c hc)
  | symbol hlexeme => exact List.forall_mem_singleton.2 (isAscii_of_ofChar? hlexeme)

theorem ne_nil (h : lexeme.IsCut written back) : written ≠ [] := by
  cases h with
  | operand hlongest =>
      obtain ⟨c, rest, rfl, -⟩ := hlongest.isOperand.exists_cons
      exact List.cons_ne_nil c rest
  | symbol _ => exact List.cons_ne_nil _ _

end Lexeme.IsCut

/-- From the offset `start` on, the text consists of the tokens and of
blanks. -/
inductive Cuts : Nat → List Char → List Token → Prop
  | done (start : Nat) : Cuts start [] []
  | blank {start : Nat} {c : Char} {back : List Char} {tokens : List Token} :
      isAsciiBlank c = true → Cuts (start + 1) back tokens →
      Cuts start (c :: back) tokens
  | token {start : Nat} {lexeme : Lexeme} {written back : List Char}
      {tokens : List Token} :
      lexeme.IsCut written back → Cuts (start + written.length) back tokens →
      Cuts start (written ++ back) (⟨lexeme, start⟩ :: tokens)

theorem Scans.cuts {start : Nat} {cs : List Char} {tokens : List Token}
    (h : Scans start cs tokens) : Cuts start cs tokens := by
  induction h with
  | done start => exact .done start
  | blank hblank _ ih => exact .blank hblank ih
  | @operand start more c rest tokens hoperand hmore _ ih =>
      obtain ⟨word, back, rfl, hlength, -, hlongest⟩ :=
        exists_longestOperand hoperand rest
      obtain rfl : more = word.length := hmore.trans hlength
      rw [List.drop_left] at ih
      rw [List.take_left]
      refine .token (.operand hlongest) ?_
      rwa [List.length_cons, Nat.add_comm word.length, ← Nat.add_assoc]
  | symbol hlexeme _ ih => exact .token (.symbol hlexeme) ih

/-! ## Offsets -/

theorem utf8Size_of_ascii {c : Char} (h : c.toNat < 128) : c.utf8Size = 1 := by
  rw [Char.utf8Size_eq_one_iff, UInt32.le_iff_toNat_le]
  exact Nat.le_of_lt_succ h

theorem utf8ByteSize_of_ascii {cs : List Char} (h : ∀ c ∈ cs, c.toNat < 128) :
    (String.ofList cs).utf8ByteSize = cs.length := by
  rw [String.utf8ByteSize_ofList]
  induction cs with
  | nil => rfl
  | cons c cs ih =>
      obtain ⟨hc, hcs⟩ := List.forall_mem_cons.1 h
      rw [String.utf8Len_cons, ih hcs, utf8Size_of_ascii hc, List.length_cons]

/-- The offset behind the last byte of the token. -/
def Token.stop (token : Token) : Nat :=
  token.position + token.lexeme.text.utf8ByteSize

/-- The byte at the offset is one of the token. -/
def Token.Covers (token : Token) (offset : Nat) : Prop :=
  token.position ≤ offset ∧ offset < token.stop

/-- A token takes as many bytes as it has characters. -/
theorem Lexeme.IsCut.stop_eq {lexeme : Lexeme} {written back : List Char}
    (h : lexeme.IsCut written back) (position : Nat) :
    (Token.mk lexeme position).stop = position + written.length := by
  have hlower : ∀ c ∈ written.map Char.toLower, c.toNat < 128 := by
    intro c hc
    obtain ⟨d, hd, rfl⟩ := List.mem_map.1 hc
    have hascii := h.isAscii d hd
    exact forall_ascii (p := fun c => c.toLower.toNat < 128) (by decide) hascii
  rw [Token.stop, ← h.asciiLower_eq, asciiLower, utf8ByteSize_of_ascii hlower,
    List.length_map]

namespace Cuts

variable {start : Nat} {cs : List Char} {tokens : List Token}

theorem exists_split (h : Cuts start cs tokens) {token : Token}
    (hmem : token ∈ tokens) :
    ∃ front written back, cs = front ++ written ++ back ∧
      start + front.length = token.position ∧ token.lexeme.IsCut written back := by
  induction h with
  | done start => cases hmem
  | @blank start c back tokens _ _ ih =>
      obtain ⟨front, written, back, rfl, hposition, hcut⟩ := ih hmem
      refine ⟨c :: front, written, back, rfl, ?_, hcut⟩
      rw [List.length_cons]
      omega
  | @token start lexeme written back tokens hcut _ ih =>
      rcases List.mem_cons.1 hmem with rfl | hmem
      · exact ⟨[], written, back, rfl, rfl, hcut⟩
      · obtain ⟨front, later, back, rfl, hposition, hlater⟩ := ih hmem
        refine ⟨written ++ front, later, back, by simp, ?_, hlater⟩
        rw [List.length_append]
        omega

theorem start_le (h : Cuts start cs tokens) {token : Token} (hmem : token ∈ tokens) :
    start ≤ token.position := by
  obtain ⟨front, _, _, _, hposition, _⟩ := h.exists_split hmem
  omega

theorem position_lt_stop (h : Cuts start cs tokens) {token : Token}
    (hmem : token ∈ tokens) : token.position < token.stop := by
  obtain ⟨_, written, _, _, _, hcut⟩ := h.exists_split hmem
  have hstop : token.stop = token.position + written.length :=
    hcut.stop_eq token.position
  have hpos := List.length_pos_iff.2 hcut.ne_nil
  omega

/-- Each token ends before the next one starts. -/
theorem apart (h : Cuts start cs tokens) :
    tokens.Pairwise fun token later => token.stop ≤ later.position := by
  induction h with
  | done start => exact .nil
  | blank _ _ ih => exact ih
  | @token start lexeme written back tokens hcut hback ih =>
      refine .cons (fun later hlater => ?_) ih
      rw [hcut.stop_eq]
      exact hback.start_le hlater

theorem increasing (h : Cuts start cs tokens) :
    (tokens.map Token.position).Pairwise (· < ·) := by
  rw [List.pairwise_map]
  refine h.apart.imp_of_mem fun htoken _ hle => ?_
  exact Nat.lt_of_lt_of_le (h.position_lt_stop htoken) hle

/-- What belongs to no token is blank. -/
theorem isAsciiBlank (h : Cuts start cs tokens) {offset : Nat} {c : Char}
    (hc : cs[offset]? = some c)
    (hfree : ∀ token ∈ tokens, ¬ token.Covers (start + offset)) :
    isAsciiBlank c = true := by
  induction h generalizing offset with
  | done start => cases hc
  | @blank start d back tokens hblank _ ih =>
      cases offset with
      | zero =>
          obtain rfl : d = c := Option.some.inj hc
          exact hblank
      | succ offset =>
          refine ih hc ?_
          rwa [Nat.add_assoc, Nat.add_comm 1]
  | @token start lexeme written back tokens hcut _ ih =>
      obtain ⟨hfirst, hfree⟩ := List.forall_mem_cons.1 hfree
      have hle : written.length ≤ offset := by
        by_contra hlt
        refine hfirst ⟨Nat.le_add_right start offset, ?_⟩
        rw [hcut.stop_eq]
        omega
      rw [List.getElem?_append_right hle] at hc
      refine ih hc ?_
      rwa [Nat.add_assoc, Nat.add_sub_cancel' hle]

end Cuts

/-! ## Bytes -/

/-- The bytes of ASCII text are its characters. -/
theorem encode_of_ascii {cs : List Char} (h : ∀ c ∈ cs, c.toNat < 128) :
    encode (String.ofList cs) = cs.map Char.toUInt8 := by
  rw [encode_eq_flatMap, String.toList_ofList]
  induction cs with
  | nil => rfl
  | cons c cs ih =>
      obtain ⟨hc, hcs⟩ := List.forall_mem_cons.1 h
      rw [List.flatMap_cons, ih hcs,
        String.utf8EncodeChar_eq_singleton (utf8Size_of_ascii hc)]
      rfl

theorem ofUInt8_toUInt8_of_ascii {c : Char} (h : c.toNat < 128) :
    Char.ofUInt8 c.toUInt8 = c :=
  forall_ascii (p := fun c => Char.ofUInt8 c.toUInt8 = c) (by decide) h

/-! ## The source -/

/-- The tokens tile the source: each is cut out of it between two characters, at
the byte offset that it gives, and all bytes between them are blanks. -/
structure Tiles (tokens : List Token) (source : String) : Prop where
  increasing : (tokens.map Token.position).Pairwise (· < ·)
  apart : tokens.Pairwise fun token later => token.stop ≤ later.position
  cut : ∀ token ∈ tokens, ∃ front written back : String,
    source = front ++ written ++ back ∧ front.utf8ByteSize = token.position ∧
    (front ++ written).utf8ByteSize = token.stop ∧
    lowerName written = token.lexeme.text ∧
    token.lexeme.IsCut written.toList back.toList
  blank : ∀ offset byte, (encode source)[offset]? = some byte →
    (∀ token ∈ tokens, ¬ token.Covers offset) →
    isAsciiBlank (Char.ofUInt8 byte) = true

theorem Scans.tiles {source : String} {tokens : List Token}
    (h : Scans 0 source.toList tokens) : Tiles tokens source := by
  have hcuts := h.cuts
  have hascii := h.isAscii
  refine ⟨hcuts.increasing, hcuts.apart, ?_, ?_⟩
  · intro token hmem
    obtain ⟨front, written, back, hsource, hposition, hcut⟩ := hcuts.exists_split hmem
    have hfront : ∀ c ∈ front ++ written, c.toNat < 128 := by
      intro c hc
      refine hascii c ?_
      rw [hsource]
      exact List.mem_append_left back hc
    refine ⟨String.ofList front, String.ofList written, String.ofList back, ?_, ?_, ?_,
      ?_, ?_⟩
    · rw [← String.ofList_append, ← String.ofList_append, ← hsource,
        String.ofList_toList]
    · rw [utf8ByteSize_of_ascii fun c hc => hfront c (List.mem_append_left written hc),
        ← hposition, Nat.zero_add]
    · rw [← String.ofList_append, utf8ByteSize_of_ascii hfront, List.length_append,
        ← Nat.zero_add front.length, hposition]
      exact (hcut.stop_eq token.position).symm
    · rw [lowerName, String.toList_ofList, hcut.asciiLower_eq]
    · rwa [String.toList_ofList, String.toList_ofList]
  · intro offset byte hbyte hfree
    rw [← String.ofList_toList (s := source), encode_of_ascii hascii,
      List.getElem?_map, Option.map_eq_some_iff] at hbyte
    obtain ⟨c, hc, rfl⟩ := hbyte
    rw [ofUInt8_toUInt8_of_ascii (hascii c (List.mem_of_getElem? hc))]
    refine hcuts.isAsciiBlank hc fun token hmem => ?_
    rw [Nat.zero_add]
    exact hfree token hmem

/-! ## Where the scan stops -/

/-- Neither a blank nor a token starts with the character, which is followed by
`back`. -/
structure StartsNothing (c : Char) (back : List Char) : Prop where
  not_blank : isAsciiBlank c = false
  not_cut : ∀ lexeme written rest, c :: back = written ++ rest →
    ¬ Lexeme.IsCut lexeme written rest

theorem startsNothing_of {c : Char} (hblank : ¬ isAsciiBlank c = true)
    (hoperand : ¬ isOperandChar c = true) (hsymbol : Lexeme.ofChar? c = none)
    (back : List Char) : StartsNothing c back := by
  refine ⟨Bool.eq_false_iff.2 hblank, ?_⟩
  intro lexeme written rest htext hcut
  cases hcut with
  | operand hlongest =>
      obtain ⟨d, more, rfl, hd⟩ := hlongest.isOperand.exists_cons
      obtain ⟨rfl, -⟩ := List.cons.inj htext
      exact hoperand hd
  | symbol hlexeme =>
      obtain ⟨rfl, -⟩ := List.cons.inj htext
      rw [hsymbol] at hlexeme
      cases hlexeme

theorem StopsWord.of_append {front back : List Char} (h : StopsWord (front ++ back)) :
    StopsWord front := by
  cases front with
  | nil => trivial
  | cons c front => exact h

/-- A scan that fails has cut all that comes before a character with which
nothing starts. -/
theorem scan_eq_error {position : Nat} {found : List Token} {cs : List Char}
    {fault : SyntaxError} (h : scan position found cs = .error fault) :
    ∃ front c back tokens, cs = front ++ c :: back ∧ Scans position front tokens ∧
      StartsNothing c back ∧
      fault = .unexpectedCharacter c (position + front.length) := by
  fun_induction scan position found cs with
  | case1 position found => cases h
  | case2 position found c rest hblank ih =>
      obtain ⟨front, d, back, tokens, rfl, hscans, hd, rfl⟩ := ih h
      refine ⟨c :: front, d, back, tokens, rfl, .blank hblank hscans, hd, ?_⟩
      rw [List.length_cons, Nat.add_comm front.length, Nat.add_assoc]
  | case3 position found c rest hblank hoperand more operand ih =>
      obtain ⟨front, d, back, tokens, hrest, hscans, hd, rfl⟩ := ih h
      obtain ⟨word, after, rfl, hlength, hstops, hlongest⟩ :=
        exists_longestOperand hoperand rest
      have hmore : more = word.length := hlength
      rw [hmore, List.drop_left] at hrest
      subst hrest
      -- cut off before `d`, the text still ends the operand where it did
      have hfront : StopsOperand front := hscans.stopsOperand hstops.of_append
      have hscans : Scans position (c :: (word ++ front)) _ :=
        .operand hoperand (hlongest.isOperand.operandLength_eq hfront).symm
          (by rwa [List.drop_left, ← hmore])
      refine ⟨c :: (word ++ front), d, back, _, by simp, hscans, hd, ?_⟩
      rw [hmore, List.length_cons, List.length_append, Nat.add_comm (_ + _) 1,
        ← Nat.add_assoc, ← Nat.add_assoc]
  | case4 position found c rest hblank hoperand lexeme hlexeme ih =>
      obtain ⟨front, d, back, tokens, rfl, hscans, hd, rfl⟩ := ih h
      refine ⟨c :: front, d, back, _, rfl, .symbol hlexeme hscans, hd, ?_⟩
      rw [List.length_cons, Nat.add_comm front.length, Nat.add_assoc]
  | case5 position found c rest hblank hoperand hlexeme =>
      obtain rfl := Except.error.inj h
      exact ⟨[], c, rest, [], rfl, .done position,
        startsNothing_of hblank hoperand hlexeme rest, rfl⟩

/-- The source is cut into tokens up to the offset, where neither a blank nor a
token starts. -/
def StopsAt (source : String) (c : Char) (offset : Nat) : Prop :=
  ∃ front back : String, source = front ++ String.ofList (c :: back.toList) ∧
    front.utf8ByteSize = offset ∧ (∀ d ∈ front.toList, d.toNat < 128) ∧
    (∃ tokens, tokenize front = .ok tokens) ∧ StartsNothing c back.toList

/-- **Tokens tile the source.** Every source is either cut into tokens that tile
it, or the first character is reported that is in the way: all before its byte
offset is ASCII and is cut into tokens, and neither a blank nor a token starts
there. -/
theorem tokens_tile_source (source : String) :
    (∃ tokens, tokenize source = .ok tokens ∧ Tiles tokens source) ∨
    (∃ c offset, tokenize source = .error (.unexpectedCharacter c offset) ∧
      StopsAt source c offset) := by
  cases htokens : tokenize source with
  | ok tokens => exact .inl ⟨tokens, rfl, (scans_of_tokenize htokens).tiles⟩
  | error fault =>
      obtain ⟨front, c, back, tokens, hsource, hscans, hc, rfl⟩ := scan_eq_error htokens
      refine .inr ⟨c, 0 + front.length, rfl, String.ofList front, String.ofList back,
        ?_, ?_, ?_, ⟨tokens, ?_⟩, ?_⟩
      · rw [String.toList_ofList, ← String.ofList_append, ← hsource,
          String.ofList_toList]
      · rw [utf8ByteSize_of_ascii hscans.isAscii, Nat.zero_add]
      · rw [String.toList_ofList]
        exact hscans.isAscii
      · rw [tokenize_eq_ok_iff, String.toList_ofList]
        exact hscans
      · rwa [String.toList_ofList]

/-- The offset of a character counts bytes, and its own do not matter. -/
example : tokenize "a+1.5 × b" = .error (.unexpectedCharacter '×' 6) := by cbv

end CounterTables.Formula
