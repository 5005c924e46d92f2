import CounterTables.Layout.Table
import CounterTables.Source.Fault
import CounterTables.Text.Utf8

/-!
# Streams that may fail

A sink takes bytes until its room is used up. What does not fit is cut: the
bytes that still fit are taken, then writing fails. A sink may also refuse to be
flushed.

## Main definitions

* `Sink.write` — writes a text, or as much of it as fits.
* `Sink.writeAll` — writes one piece after another, up to the first failure.
* `Sink.writeLines` — writes lines up to the first failure.

## Main statements

* `Sink.written_write` — a write adds the bytes of its text that fit.
* `Sink.writeAll_eq_write` — pieces written one by one are written like their
  text as a whole.
-/

namespace CounterTables

open CounterTables.Text (Utf8.encode Utf8.encode_append)

/-! ## Sinks -/

structure Sink where
  /-- How many bytes still fit; `none` if any number does. -/
  room : Option Nat
  refusesFlush : Bool
  written : List UInt8

inductive WriteFault
  /-- The room is used up. -/
  | full
  | flushRefused
  /-- A line could not be laid out. -/
  | tooWide
  /-- The file could not be written. -/
  | file (fault : FileFault)
  deriving DecidableEq

def WriteFault.message : WriteFault → String
  | full => "disk full"
  | flushRefused => "flush refused"
  | tooWide => "column too wide"
  | file fault => fault.message

namespace Sink

/-- A sink that takes everything. -/
def unbounded : Sink := ⟨none, false, []⟩

/-! ## Writing -/

/-- Writes a text, or as much of it as fits. -/
def write (sink : Sink) (text : String) : Sink × Option WriteFault :=
  let bytes := Utf8.encode text
  match sink.room with
  | none => ({ sink with written := sink.written ++ bytes }, none)
  | some room =>
      if bytes.length ≤ room then
        ({ sink with
            room := some (room - bytes.length), written := sink.written ++ bytes },
          none)
      else
        ({ sink with room := some 0, written := sink.written ++ bytes.take room },
          some .full)

/-- Writes pieces up to the first failure. -/
def writeAll (sink : Sink) : List String → Sink × Option WriteFault
  | [] => (sink, none)
  | piece :: rest =>
      match sink.write piece with
      | (sink, some fault) => (sink, some fault)
      | (sink, none) => sink.writeAll rest

/-- Writes the lines before the first that cannot be laid out, and fails
there. -/
def writeLines (sink : Sink) (lines : Layout.Lines) : Sink × Option WriteFault :=
  match sink.writeAll (Layout.piecesOf lines) with
  | (sink, some fault) => (sink, some fault)
  | (sink, none) => (sink, if Layout.areLaidOut lines then none else some .tooWide)

def flush (sink : Sink) : Option WriteFault :=
  if sink.refusesFlush then some .flushRefused else none

/-! ## Laws -/

/-- A write adds the bytes of the text, as far as there is room. -/
theorem written_write (sink : Sink) (text : String) :
    (sink.write text).1.written =
      sink.written ++
        sink.room.elim (Utf8.encode text) fun room => (Utf8.encode text).take room := by
  unfold write
  cases sink.room with
  | none => rfl
  | some room =>
      by_cases hFits : (Utf8.encode text).length ≤ room
      · simp [hFits, List.take_of_length_le hFits]
      · simp [hFits]

/-- A write fails just if the text does not fit. -/
theorem write_eq_none_iff (sink : Sink) (text : String) :
    (sink.write text).2 = none ↔
      ∀ room, sink.room = some room → (Utf8.encode text).length ≤ room := by
  unfold write
  cases sink.room with
  | none => simp
  | some room => by_cases hFits : (Utf8.encode text).length ≤ room <;> simp [hFits]

/-- The room for a text is the only thing that a write can lack. -/
theorem eq_full_of_write {sink : Sink} {text : String} {fault : WriteFault}
    (h : (sink.write text).2 = some fault) : fault = .full := by
  obtain ⟨room, refusesFlush, written⟩ := sink
  cases room with
  | none => simp [write] at h
  | some room =>
      by_cases hFits : (Utf8.encode text).length ≤ room
      · simp [write, hFits] at h
      · simpa [write, hFits] using h.symm

theorem flush_write (sink : Sink) (text : String) :
    (sink.write text).1.flush = sink.flush := by
  obtain ⟨room, refusesFlush, written⟩ := sink
  cases room with
  | none => rfl
  | some room =>
      by_cases hFits : (Utf8.encode text).length ≤ room <;> simp [write, flush, hFits]

theorem write_empty (sink : Sink) : sink.write "" = (sink, none) := by
  obtain ⟨room, refusesFlush, written⟩ := sink
  cases room <;> simp [write, Utf8.encode]

/-- A text in two parts is written like the parts one after the other. -/
theorem write_append (sink : Sink) (front back : String) :
    sink.write (front ++ back) =
      match sink.write front with
      | (sink, some fault) => (sink, some fault)
      | (sink, none) => sink.write back := by
  obtain ⟨room, refusesFlush, written⟩ := sink
  cases room with
  | none => simp [write, Utf8.encode_append]
  | some room =>
      by_cases hFront : (Utf8.encode front).length ≤ room
      · by_cases hBack : (Utf8.encode back).length ≤ room - (Utf8.encode front).length
        · have hBoth :
              (Utf8.encode front).length + (Utf8.encode back).length ≤ room := by
            omega
          simp [write, Utf8.encode_append, hFront, hBack, hBoth, Nat.sub_sub]
        · have hBoth :
              ¬(Utf8.encode front).length + (Utf8.encode back).length ≤ room := by
            omega
          simp [write, Utf8.encode_append, hFront, hBack, hBoth, List.take_append,
            List.take_of_length_le hFront]
      · have hBoth :
            ¬(Utf8.encode front).length + (Utf8.encode back).length ≤ room := by
          omega
        have hLeft : room - (Utf8.encode front).length = 0 := by omega
        simp [write, Utf8.encode_append, hFront, hBoth, List.take_append, hLeft]

/-- Pieces written one by one are written like their text as a whole. -/
theorem writeAll_eq_write (sink : Sink) (pieces : List String) :
    sink.writeAll pieces = sink.write (String.join pieces) := by
  induction pieces generalizing sink with
  | nil => exact (write_empty sink).symm
  | cons piece rest ih =>
      rw [String.join_cons, write_append, writeAll]
      split <;> simp_all

/-- Lines that can be laid out are written like their text. -/
theorem writeLines_of_areLaidOut (sink : Sink) {lines : Layout.Lines}
    (h : Layout.areLaidOut lines = true) :
    sink.writeLines lines = sink.write (Layout.textOf lines) := by
  rw [writeLines, writeAll_eq_write, h]
  show _ = sink.write (String.join (Layout.piecesOf lines))
  split <;> simp_all

end Sink

end CounterTables
