import CounterTables.Layout.Line

/-!
# Reading macro lines back

Whoever reads the tables knows the macros but not the widths of the columns. A
field is either quoted, with escapes inside, or bare up to the next comma;
spaces behind a field belong to its column. A comma or a parenthesis inside
quotes is text.

## Main definitions

* `readQuoted` — a quoted field and what follows it.
* `readFields` — the texts of a list of quoted fields.
* `splitArguments` — a list of fields cut at the commas outside quotes.

## Main statements

* `readQuoted_encode` — what was quoted is read back, and nothing of what
  follows it.
-/

namespace CounterTables.Layout

/-! ## Quoted fields -/

/-- The text up to the closing quote, and what follows the quote. A line end or
an unknown escape cannot stand in a quoted field. -/
def readQuoted : List Char → Option (List Char × List Char)
  | [] => none
  | '"' :: rest => some ([], rest)
  | '\\' :: '\\' :: rest =>
      (readQuoted rest).map fun (text, rest) => ('\\' :: text, rest)
  | '\\' :: '"' :: rest => (readQuoted rest).map fun (text, rest) => ('"' :: text, rest)
  | '\\' :: 'n' :: rest =>
      (readQuoted rest).map fun (text, rest) => ('\n' :: text, rest)
  | c :: rest =>
      if c = '\\' ∨ c = '\n' then none
      else (readQuoted rest).map fun (text, rest) => (c :: text, rest)

/-- The texts of quoted fields with commas between them, up to the closing
parenthesis, and what follows it. At most `bound` fields are read. -/
def readFields : Nat → List Char → Option (List String × List Char)
  | 0, _ => none
  | bound + 1, '"' :: rest =>
      (readQuoted rest).bind fun (text, rest) =>
        match rest.dropWhile (· == ' ') with
        | ',' :: rest =>
            (readFields bound rest).map fun (fields, rest) =>
              (String.ofList text :: fields, rest)
        | ')' :: rest => some ([String.ofList text], rest)
        | _ => none
  | _, _ => none

/-! ## Any fields -/

/-- Whether the character after `c` stands in quotes, and whether it is
escaped. -/
def nextQuoting (inside escaped : Bool) (c : Char) : Bool × Bool :=
  if !inside then (c == '"', false)
  else if escaped then (true, false)
  else (c != '"', c == '\\')

/-- A list of fields cut at the commas outside quotes; the fields keep their
quotes and spaces. -/
def splitArguments (inside escaped : Bool) : List Char → List (List Char)
  | [] => [[]]
  | c :: rest =>
      if c == ',' && !inside then [] :: splitArguments false false rest
      else
        let (inside, escaped) := nextQuoting inside escaped c
        match splitArguments inside escaped rest with
        | field :: fields => (c :: field) :: fields
        | [] => [[c]]

/-! ## Laws -/

theorem readQuoted_escape_append (c : Char) (rest : List Char) :
    readQuoted (escape c ++ rest) =
      (readQuoted rest).map fun (text, rest) => (c :: text, rest) := by
  unfold escape
  split
  · subst c; rfl
  split
  · subst c; rfl
  split
  · subst c; rfl
  · rename_i hSlash hQuote hLine
    rw [List.singleton_append, readQuoted]
    · simp [hSlash, hLine]
    all_goals simp_all

/-- What was quoted is read back, and nothing of what follows it. -/
theorem readQuoted_encode (cs rest : List Char) :
    readQuoted (encode cs ++ '"' :: rest) = some (cs, rest) := by
  induction cs with
  | nil => rfl
  | cons c cs ih =>
      have hEncode : encode (c :: cs) = escape c ++ encode cs := by simp [encode]
      rw [hEncode, List.append_assoc, readQuoted_escape_append, ih]
      rfl

end CounterTables.Layout
