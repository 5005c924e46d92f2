import CounterTables.Source.DocumentSource

/-!
# Hosts

A command reads and writes files, prints, and sends requests, whatever it runs
on. A host says how, in a monad of its own choice: a machine that is passed
along, or the one that the program runs on.

## Main definitions

* `Host` — the operations.
* `Machine`, `Machine.host` — a file tree with what was printed, and as a host.
-/

namespace CounterTables

/-! ## Hosts -/

/-- What a command needs from its surroundings. -/
structure Host (m : Type → Type) where
  /-- A file that is open for writing. -/
  File : Type
  read : FileReader m
  /-- Empties a file, which is created if it does not exist, and opens it at its
  start. -/
  create : String → m (Except FileFault File)
  /-- Writes bytes over those of a file, from where the previous bytes ended. -/
  write : File → List UInt8 → m (Except FileFault File)
  /-- Adds bytes at the end of a file, which is created if it does not exist. -/
  append : String → List UInt8 → m (Except FileFault Unit)
  /-- Prints to standard output. -/
  print : List UInt8 → m Unit
  /-- Prints to standard error. -/
  complain : String → m Unit
  request : Responder m

/-! ## Machines -/

/-- Files, and what was printed to standard output and standard error. -/
structure Machine where
  tree : FileTree
  output : ByteArray
  errors : String

namespace Machine

/-- A machine on which nothing was printed yet. -/
def ofTree (tree : FileTree) : Machine := ⟨tree, .empty, ""⟩

/-- An open file: its names, and where writing goes on. -/
structure OpenFile where
  names : List String
  place : Nat

def create (machine : Machine) (path : String) : Except FileFault OpenFile × Machine :=
  match machine.tree.create path with
  | .error fault => (.error fault, machine)
  | .ok (names, tree) => (.ok ⟨names, 0⟩, { machine with tree := tree })

def write (machine : Machine) (file : OpenFile) (bytes : List UInt8) :
    OpenFile × Machine :=
  ({ file with place := file.place + bytes.length },
    { machine with tree := machine.tree.overwrite file.names file.place bytes })

def append (machine : Machine) (path : String) (bytes : List UInt8) :
    Except FileFault Unit × Machine :=
  match machine.tree.append path bytes with
  | .error fault => (.error fault, machine)
  | .ok tree => (.ok (), { machine with tree := tree })

/-- A machine as a host, with answers to requests. -/
def host (respond : Responder Id) : Host (StateM Machine) where
  File := OpenFile
  read path := fun machine => (machine.tree.read path, machine)
  create path := fun machine => machine.create path
  write file bytes := fun machine =>
    let (file, machine) := machine.write file bytes
    (.ok file, machine)
  append path bytes := fun machine => machine.append path bytes
  print bytes := modify fun machine =>
    { machine with output := machine.output ++ bytes.toByteArray }
  complain text :=
    modify fun machine => { machine with errors := machine.errors ++ text }
  request url := return respond url

end Machine

end CounterTables
