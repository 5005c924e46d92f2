/-!
# Quoted text

Text stands between double quotes. Backslash, double quote and line feed are
written as a backslash with a letter; all other characters stand for themselves.

## Main definitions

* `escape`, `encode`, `quote` — writing.
* `escapedLength` — how many characters stand between the quotes.
* `decode` — reading what stands between the quotes.

## Main statements

* `decode_encode` — what was written is read back.
* `length_quote` — a quoted text has its escaped length and the two quotes.
-/

namespace CounterTables.Layout

/-! ## Writing -/

/-- The characters that stand for `c` between quotes. -/
def escape (c : Char) : List Char :=
  if c = '\\' then ['\\', '\\']
  else if c = '"' then ['\\', '"']
  else if c = '\n' then ['\\', 'n']
  else [c]

/-- What stands between the quotes. -/
def encode (cs : List Char) : List Char :=
  cs.flatMap escape

def quote (text : String) : String :=
  String.ofList ('"' :: encode text.toList ++ ['"'])

/-! ## Measuring -/

/-- How many characters stand for `c`. -/
def escapedWidth (c : Char) : Nat :=
  if c = '\\' ∨ c = '"' ∨ c = '\n' then 2 else 1

/-- How many characters stand for a text between its quotes. -/
def escapedLength (text : String) : Nat :=
  text.toList.foldr (fun c length => escapedWidth c + length) 0

/-! ## Reading -/

/-- The text that stands between two quotes; `none` if it could not stand
there. -/
def decode : List Char → Option (List Char)
  | [] => some []
  | '\\' :: '\\' :: rest => (decode rest).map ('\\' :: ·)
  | '\\' :: '"' :: rest => (decode rest).map ('"' :: ·)
  | '\\' :: 'n' :: rest => (decode rest).map ('\n' :: ·)
  | c :: rest =>
      if c = '\\' ∨ c = '"' ∨ c = '\n' then none else (decode rest).map (c :: ·)

/-! ## Laws -/

theorem length_escape (c : Char) : (escape c).length = escapedWidth c := by
  unfold escape escapedWidth
  repeat' split
  all_goals simp_all

theorem length_encode (cs : List Char) :
    (encode cs).length = cs.foldr (fun c length => escapedWidth c + length) 0 := by
  induction cs with
  | nil => rfl
  | cons c rest ih =>
      rw [List.foldr_cons, ← ih, ← length_escape, ← List.length_append]
      rfl

theorem length_quote (text : String) :
    (quote text).length = escapedLength text + 2 := by
  rw [quote, String.length_ofList]
  simp [escapedLength, length_encode]

theorem decode_escape_append (c : Char) (rest : List Char) :
    decode (escape c ++ rest) = (decode rest).map (c :: ·) := by
  unfold escape
  split
  · subst c; rfl
  split
  · subst c; rfl
  split
  · subst c; rfl
  · simp [decode, *]

theorem decode_encode (cs : List Char) : decode (encode cs) = some cs := by
  induction cs with
  | nil => rfl
  | cons c rest ih =>
      have : encode (c :: rest) = escape c ++ encode rest := by simp [encode]
      rw [this, decode_escape_append, ih, Option.map_some]

end CounterTables.Layout
