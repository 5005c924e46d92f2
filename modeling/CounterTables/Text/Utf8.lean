import CounterTables.Number.Binary64

/-!
# UTF-8

Text is written as UTF-8. Bytes are read back strictly, where they must be text,
or leniently, where whatever is there has to be shown: each longest broken start
of a character becomes one replacement character.

## Main definitions

* `encode` — the bytes of a text.
* `decode?` — the text of bytes that are one.
* `decodeLossy` — a text for any bytes.
-/

namespace CounterTables.Text.Utf8

open CounterTables.Number (twoPow)

/-! ## Writing and strict reading -/

def encode (text : String) : List UInt8 :=
  text.toUTF8.data.toList

def decode? (bytes : List UInt8) : Option String :=
  String.fromUTF8? ⟨bytes.toArray⟩

theorem encode_append (front back : String) :
    encode (front ++ back) = encode front ++ encode back := by
  simp [encode]

/-- The bytes of a text are read back. -/
theorem decode?_encode (text : String) : decode? (encode text) = some text := by
  have hvalid : String.fromUTF8? text.toUTF8 = some text := dif_pos text.isValidUTF8
  simpa [decode?, encode] using hvalid

/-! ## Lenient reading -/

/-- The bytes that may follow a first byte: how many bytes there are in all, and
the least and greatest second byte. -/
def lead? (byte : Nat) : Option (Nat × Nat × Nat) :=
  if 0xC2 ≤ byte ∧ byte ≤ 0xDF then some (2, 0x80, 0xBF)
  else if byte = 0xE0 then some (3, 0xA0, 0xBF)
  else if byte = 0xED then some (3, 0x80, 0x9F)
  else if 0xE1 ≤ byte ∧ byte ≤ 0xEF then some (3, 0x80, 0xBF)
  else if byte = 0xF0 then some (4, 0x90, 0xBF)
  else if byte = 0xF4 then some (4, 0x80, 0x8F)
  else if 0xF1 ≤ byte ∧ byte ≤ 0xF3 then some (4, 0x80, 0xBF)
  else none

/-- The value of up to `count` bytes that continue a character, how many are
still due, and how many were taken. -/
def continue? (value low high : Nat) : Nat → Nat → List UInt8 → Nat × Nat × Nat
  | 0, taken, _ => (value, 0, taken)
  | due + 1, taken, [] => (value, due + 1, taken)
  | due + 1, taken, byte :: rest =>
      if low ≤ byte.toNat ∧ byte.toNat ≤ high then
        continue? (value * 64 + byte.toNat % 64) 0x80 0xBF due (taken + 1) rest
      else (value, due + 1, taken)

/-- The character at the start of the bytes after `first`, and how many of them
belong to it. -/
def nextChar (first : UInt8) (rest : List UInt8) : Char × Nat :=
  if first.toNat < 0x80 then (Char.ofNat first.toNat, 0)
  else
    match lead? first.toNat with
    | none => ('\ufffd', 0)
    | some (size, low, high) =>
        let value := first.toNat % twoPow (7 - size)
        let (code, due, taken) := continue? value low high (size - 1) 0 rest
        (if due = 0 then Char.ofNat code else '\ufffd', taken)

/-- The characters of the bytes, behind those already read (the latest
first). -/
def readLossy (read : List Char) : List UInt8 → List Char
  | [] => read.reverse
  | first :: rest =>
      let (c, taken) := nextChar first rest
      readLossy (c :: read) (rest.drop taken)
termination_by bytes => bytes.length
decreasing_by simp only [List.length_cons, List.length_drop]; omega

def decodeLossy (bytes : List UInt8) : String :=
  String.ofList (readLossy [] bytes)

end CounterTables.Text.Utf8
