import Mathlib
import CounterTables.Proofs.Layout.QuotedLines

/-!
# What stands between two quotes

Each character of a text stands between the quotes as itself or as a backslash
and a letter, and the three that have an escape never stand as themselves. So
what stands there is cut into characters in one way only: it is read back if and
only if it was written.

A backslash escapes what follows it unless it is escaped itself. At the end of
each character that was written nothing is escaped, however many backslashes the
text has; the quote of a pair is, and no other quote stands there.

## Main results

* `encode_of_decode`, `decode_eq_some_iff` — what can be read was written.
* `encode_eq_append_quote` — where quotes stand.
* `escapesNext_append_encode` — nothing that was written escapes what follows
  it.
* `quoted_text_read_back` — length, line feeds, quotes and text of a quoted
  text.
-/

namespace CounterTables.Layout

/-! ## Reading and writing -/

theorem encode_cons (c : Char) (cs : List Char) :
    encode (c :: cs) = escape c ++ encode cs :=
  List.flatMap_cons

theorem escape_of_plain {c : Char} (h : ¬ (c = '\\' ∨ c = '"' ∨ c = '\n')) :
    escape c = [c] := by
  rw [not_or, not_or] at h
  rw [escape, if_neg h.1, if_neg h.2.1, if_neg h.2.2]

/-- What can be read was written. -/
theorem encode_of_decode {written cs : List Char} (h : decode written = some cs) :
    encode cs = written := by
  induction written using decode.induct generalizing cs with
  | case1 =>
      obtain rfl := Option.some.inj h
      rfl
  | case2 rest ih | case3 rest ih | case4 rest ih =>
      obtain ⟨text, htext, rfl⟩ := Option.map_eq_some_iff.1 h
      rw [encode_cons, ih htext]
      rfl
  | case5 c rest _ _ _ hspecial =>
      rw [decode, if_pos hspecial] at h
      · cases h
      all_goals assumption
  | case6 c rest _ _ _ hplain ih =>
      rw [decode, if_neg hplain] at h
      · obtain ⟨text, htext, rfl⟩ := Option.map_eq_some_iff.1 h
        rw [encode_cons, escape_of_plain hplain, ih htext]
        rfl
      all_goals assumption

theorem decode_eq_some_iff {written cs : List Char} :
    decode written = some cs ↔ encode cs = written := by
  constructor
  · exact encode_of_decode
  · rintro rfl
    exact decode_encode cs

theorem encode_injective : Function.Injective encode := by
  intro cs others h
  rw [← decode_eq_some_iff, decode_encode] at h
  exact (Option.some.inj h).symm

/-! ## Escaped characters -/

/-- Whether a character behind the text is escaped: the one before it is a
backslash that is not escaped itself. -/
def escapesNext (cs : List Char) : Bool :=
  cs.foldl (fun escaped c => !escaped && c == '\\') false

theorem escapesNext_concat (cs : List Char) (c : Char) :
    escapesNext (cs ++ [c]) = (!escapesNext cs && c == '\\') := by
  rw [escapesNext, List.foldl_concat]
  rfl

theorem escapesNext_append_escape {front : List Char} (h : escapesNext front = false)
    (c : Char) : escapesNext (front ++ escape c) = false := by
  have hpair : ∀ d : Char, escapesNext (front ++ ['\\', d]) = false := by
    intro d
    have hsplit : front ++ ['\\', d] = front ++ ['\\'] ++ [d] := by simp
    rw [hsplit, escapesNext_concat, escapesNext_concat, h]
    rfl
  unfold escape
  split
  · exact hpair _
  split
  · exact hpair _
  split
  · exact hpair _
  · rename_i hslash _ _
    simp [escapesNext_concat, hslash]

/-- Where nothing is escaped, nothing is behind what was written. -/
theorem escapesNext_append_encode {front : List Char} (h : escapesNext front = false)
    (cs : List Char) : escapesNext (front ++ encode cs) = false := by
  induction cs generalizing front with
  | nil => simpa [encode] using h
  | cons c cs ih =>
      rw [encode_cons, ← List.append_assoc]
      exact ih (escapesNext_append_escape h c)

theorem quote_mem_escape_iff {c : Char} : '"' ∈ escape c ↔ c = '"' := by
  unfold escape
  split
  · subst c
    decide
  split
  · subst c
    decide
  split
  · subst c
    decide
  · rw [List.mem_singleton, eq_comm]

theorem escape_eq_append_quote {c : Char} {front back : List Char}
    (h : escape c = front ++ '"' :: back) : c = '"' ∧ front = ['\\'] ∧ back = [] := by
  obtain rfl :=
    quote_mem_escape_iff.1 (h ▸ List.mem_append_right front List.mem_cons_self)
  have hpair : ['\\'] ++ '"' :: [] = front ++ '"' :: back := h
  obtain ⟨rfl, -, rfl⟩ :=
    (List.append_cons_inj_of_notMem (by decide) (by decide)).1 hpair
  exact ⟨rfl, rfl, rfl⟩

/-- A quote is written with a backslash before it, and there is no other. -/
theorem encode_eq_append_quote {cs front back : List Char}
    (h : encode cs = front ++ '"' :: back) :
    ∃ before after, cs = before ++ '"' :: after ∧ front = encode before ++ ['\\'] ∧
      back = encode after := by
  induction cs generalizing front with
  | nil => simp [encode] at h
  | cons c cs ih =>
      have hinside : ∀ more, encode cs = more ++ '"' :: back →
          ∃ before after, c :: cs = before ++ '"' :: after ∧
            escape c ++ more = encode before ++ ['\\'] ∧ back = encode after := by
        intro more hmore
        obtain ⟨before, after, rfl, rfl, hback⟩ := ih hmore
        exact ⟨c :: before, after, rfl, by rw [encode_cons, List.append_assoc], hback⟩
      rw [encode_cons] at h
      rcases List.append_eq_append_iff.1 h with
        ⟨more, rfl, hmore⟩ | ⟨more, hmore, hrest⟩
      · exact hinside more hmore
      · rcases more with _ | ⟨first, more⟩
        · rw [List.append_nil] at hmore
          have hlater := hinside [] hrest.symm
          rwa [List.append_nil, hmore] at hlater
        · obtain ⟨rfl, rfl⟩ := List.cons.inj hrest
          obtain ⟨rfl, rfl, rfl⟩ := escape_eq_append_quote hmore
          exact ⟨[], cs, rfl, rfl, rfl⟩

/-! ## Quoted texts -/

theorem toList_quote (text : String) :
    (quote text).toList = '"' :: (encode text.toList ++ ['"']) := by
  simp [quote]

/-- The text can be read from between the quotes, and it is the only one that is
written so. -/
theorem toList_quote_eq_iff {text : String} {inside : List Char} :
    (quote text).toList = '"' :: (inside ++ ['"']) ↔ decode inside =
      some text.toList := by
  rw [toList_quote, decode_eq_some_iff, List.cons_inj_right, List.append_left_inj]

theorem quote_injective : Function.Injective quote := by
  intro text other h
  have hinside := toList_quote other
  rw [← h, toList_quote, List.cons_inj_right, List.append_left_inj] at hinside
  exact String.toList_inj.1 (encode_injective hinside)

/-- The first and the last quote are the only ones that are not escaped. -/
theorem escapesNext_eq_false_iff {text : String} {front back : List Char}
    (h : (quote text).toList = front ++ '"' :: back) :
    escapesNext front = false ↔ front = [] ∨ back = [] := by
  have hopened : escapesNext ['"'] = false := rfl
  rw [toList_quote] at h
  rcases front with _ | ⟨first, front⟩
  · exact iff_of_true rfl (.inl rfl)
  rw [List.cons_append, List.cons_eq_cons] at h
  obtain ⟨rfl, h⟩ := h
  rcases List.eq_nil_or_concat' back with rfl | ⟨back, last, rfl⟩
  · obtain ⟨rfl, -⟩ := List.append_inj' h rfl
    exact iff_of_true (escapesNext_append_encode hopened _) (.inr rfl)
  · rw [← List.cons_append, ← List.append_assoc] at h
    obtain ⟨before, after, -, rfl, -⟩ :=
      encode_eq_append_quote (List.append_inj' h rfl).1
    have hescaped : escapesNext ('"' :: (encode before ++ ['\\'])) = true := by
      rw [← List.cons_append, escapesNext_concat, ← List.singleton_append,
        escapesNext_append_encode hopened]
      rfl
    simp [hescaped]

/-- **Quoted text.** A quoted text has its escaped length and two characters
more, and no line feed. Of the quotes in it only the first and the last are not
escaped. What stands between these two is what is read as the text and nothing
else, so two texts are not quoted alike. -/
theorem quoted_text_read_back (text : String) :
    (quote text).length = escapedLength text + 2 ∧
      '\n' ∉ (quote text).toList ∧
      (∀ front back, (quote text).toList = front ++ '"' :: back →
        (escapesNext front = false ↔ front = [] ∨ back = [])) ∧
      (∀ inside, (quote text).toList = '"' :: (inside ++ ['"']) ↔
        decode inside = some text.toList) ∧
      ∀ other, quote other = quote text → other = text := by
  refine ⟨length_quote text, lineFeed_not_mem_quote text, ?_, ?_, ?_⟩
  · exact fun front back => escapesNext_eq_false_iff
  · exact fun inside => toList_quote_eq_iff
  · exact fun other h => quote_injective h

end CounterTables.Layout
