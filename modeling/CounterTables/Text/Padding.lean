/-!
# Padding

Fields are padded to a width counted in characters. Widths have 16 bits: a wider
one is refused, also where the text needs no padding. A text longer than its
width is kept whole.

## Main statements

* `length_padRight` — a padded text has the width, or its own length if that is
  larger.
-/

namespace CounterTables.Text

/-- The largest width. -/
def maxWidth : Nat := 65535

/-- The text with spaces behind it up to `width` characters. -/
def padRight (width : Nat) (text : String) : Option String :=
  if width ≤ maxWidth then
    some (text ++ String.ofList (List.replicate (width - text.length) ' '))
  else none

/-- The text with zeros before it up to `width` characters. -/
def padZeros (width : Nat) (text : String) : Option String :=
  if width ≤ maxWidth then
    some (String.ofList (List.replicate (width - text.length) '0') ++ text)
  else none

theorem padRight_eq_some_iff {width : Nat} {text padded : String} :
    padRight width text = some padded ↔ width ≤ maxWidth ∧
      text ++ String.ofList (List.replicate (width - text.length) ' ') = padded := by
  unfold padRight
  split
  · simp [*]
  · simp [*]

theorem length_padRight {width : Nat} {text padded : String}
    (h : padRight width text = some padded) :
    padded.length = max width text.length := by
  obtain ⟨-, rfl⟩ := padRight_eq_some_iff.1 h
  simp
  omega

end CounterTables.Text
