import CounterTables.Command.Host
import CounterTables.Run.Stage

/-!
# Streams

The output of a command reaches its file, or standard output, in portions.
Pieces of lines are held back until the next one would not fit into the portion;
then the portion is delivered. A piece as long as a portion is delivered at
once.

Who reads the file in the meantime finds what was delivered so far, and who adds
to it finds that later portions are written over what was added.

## Main definitions

* `Stream` — the output with what is held back.
* `Stream.put`, `Stream.writeLines` — pieces and lines.
* `Host.stage` — a run with its output in a stream.
-/

namespace CounterTables

variable {m : Type → Type} [Monad m]

/-- Output, some of which may be held back. -/
structure Stream (file : Type) where
  /-- The file; without one, standard output. -/
  target : Option file
  /-- The pieces that are held back, the latest first. -/
  held : List (List UInt8)
  /-- The number of bytes held back. -/
  size : Nat

namespace Stream

/-- Output to a file or to standard output, of which nothing is held back. -/
def start {file : Type} (target : Option file) : Stream file := ⟨target, [], 0⟩

/-- The bytes that are held back. -/
def bytes {file : Type} (stream : Stream file) : List UInt8 :=
  stream.held.reverse.flatten

/-- The stream with one piece more. -/
def hold {file : Type} (stream : Stream file) (piece : List UInt8) : Stream file :=
  { stream with held := piece :: stream.held, size := stream.size + piece.length }

/-- The bytes in a portion. -/
def portion : Nat := 8192

/-- Delivers bytes. -/
def deliver (host : Host m) (bytes : List UInt8) :
    StateT (Stream host.File) m (Option WriteFault) := do
  match (← get).target with
  | none =>
      host.print bytes
      return none
  | some file =>
      match ← host.write file bytes with
      | .error fault => return some (.file fault)
      | .ok file =>
          modify fun stream => { stream with target := some file }
          return none

/-- Delivers what is held back. -/
def release (host : Host m) : StateT (Stream host.File) m (Option WriteFault) := do
  let stream ← get
  set (start stream.target)
  deliver host stream.bytes

/-- Delivers what is held back if so many bytes more do not fit. -/
def makeRoom (host : Host m) (count : Nat) :
    StateT (Stream host.File) m (Option WriteFault) := do
  if portion < (← get).size + count then release host else return none

/-- Takes one piece. -/
def put (host : Host m) (piece : List UInt8) :
    StateT (Stream host.File) m (Option WriteFault) := do
  match ← makeRoom host piece.length with
  | some fault => return some fault
  | none =>
      if portion ≤ piece.length then deliver host piece
      else
        modify fun stream => stream.hold piece
        return none

/-- Takes pieces up to the first failure. -/
def putAll (host : Host m) :
    List String → StateT (Stream host.File) m (Option WriteFault)
  | [] => return none
  | piece :: rest => do
      match ← put host (Text.Utf8.encode piece) with
      | some fault => return some fault
      | none => putAll host rest

/-- Takes the lines before the first that cannot be laid out, and fails
there. -/
def writeLines (host : Host m) (lines : Layout.Lines) :
    StateT (Stream host.File) m (Option WriteFault) := do
  match ← putAll host (Layout.piecesOf lines) with
  | some fault => return some fault
  | none => return if Layout.areLaidOut lines then none else some .tooWide

end Stream

namespace Host

/-- A run on a host: its output in a stream, its reports in a log. -/
def stage (host : Host m) (log : Log.Event → m Unit) :
    Stage (StateT (Stream host.File) m) where
  write := Stream.writeLines host
  flush := Stream.release host
  report event := log event

/-- Performs a run with an opened output, and delivers in the end what is still
held back. -/
def withOutput {α : Type} (host : Host m) (target : Option host.File)
    (run : StateT (Stream host.File) m α) : m α := do
  let (result, stream) ← run.run (.start target)
  let _ ← (Stream.release host).run stream
  return result

end Host

end CounterTables
