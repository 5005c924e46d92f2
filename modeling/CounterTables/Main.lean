import CounterTables.Command.Execution

/-!
# The program

Performs a command line on the files of the machine. Requests over the network
are not answered.
-/

namespace CounterTables.Program

/-- The number of an error. Some operations give it with the opposite sign. -/
def magnitude (code : UInt32) : Nat :=
  min code.toNat (-code).toNat

/-- The system's number and words for an error. -/
def codeAndWords : IO.Error → Option (Nat × String)
  | .alreadyExists _ code words => some (magnitude code, words)
  | .otherError code words => some (magnitude code, words)
  | .resourceBusy code words => some (magnitude code, words)
  | .resourceVanished code words => some (magnitude code, words)
  | .unsupportedOperation code words => some (magnitude code, words)
  | .hardwareFault code words => some (magnitude code, words)
  | .unsatisfiedConstraints code words => some (magnitude code, words)
  | .illegalOperation code words => some (magnitude code, words)
  | .protocolError code words => some (magnitude code, words)
  | .timeExpired code words => some (magnitude code, words)
  | .interrupted _ code words => some (magnitude code, words)
  | .noFileOrDirectory _ code words => some (magnitude code, words)
  | .invalidArgument _ code words => some (magnitude code, words)
  | .permissionDenied _ code words => some (magnitude code, words)
  | .resourceExhausted _ code words => some (magnitude code, words)
  | .inappropriateType _ code words => some (magnitude code, words)
  | .noSuchThing _ code words => some (magnitude code, words)
  | .unexpectedEof => none
  | .userError _ => none

/-- The fault that an error of the system stands for. -/
def faultOf (error : IO.Error) : FileFault :=
  match codeAndWords error with
  | some (2, _) => .notFound
  | some (20, _) => .notDirectory
  | some (21, _) => .isDirectory
  | some (36, _) => .nameTooLong
  | some (code, words) => .other s!"{words} (os error {code})"
  | none => .other (toString error)

/-- An operation on a file, with its fault. -/
def attempt {α : Type} (operation : IO α) : IO (Except FileFault α) := do
  try return .ok (← operation)
  catch error => return .error (faultOf error)

/-- The files of the machine, and its standard streams. -/
def host : Host IO where
  File := IO.FS.Handle
  read path := attempt do
    return (← IO.FS.readBinFile path).toList
  create path := attempt (IO.FS.Handle.mk path .write)
  write file bytes := attempt do
    file.write ⟨bytes.toArray⟩
    file.flush
    return file
  append path bytes := attempt do
    IO.FS.withFile path .append fun file => file.write ⟨bytes.toArray⟩
  print bytes := do
    let output ← IO.getStdout
    output.write ⟨bytes.toArray⟩
    output.flush
  complain text := do
    let errors ← IO.getStderr
    errors.putStr text
  request _ := return .error "the network is not available"

end CounterTables.Program

def main (arguments : List String) : IO UInt32 := do
  let directives ← IO.getEnv "RUST_LOG"
  let errors ← IO.getStderr
  let around : CounterTables.LogSurroundings := ⟨directives, ← errors.isTty⟩
  let exitCode ←
    CounterTables.CommandLine.run arguments CounterTables.Program.host around
  return exitCode.toUInt32
