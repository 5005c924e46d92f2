import CounterTables.Source.Fault
import CounterTables.Text.Blank
import CounterTables.Text.Utf8

/-!
# File trees

A file tree holds the files below the working directory. A path is followed
component by component: `.` stays, `..` goes up, and above the working directory
nothing but directories without names is known. A path that ends in a slash must
lead to a directory.

## Main definitions

* `FileTree.follow` — the place that a path leads to.
* `FileTree.read`, `FileTree.create`, `FileTree.append`, `FileTree.overwrite` —
  the operations on files.
-/

namespace CounterTables

open CounterTables.Text (pieces)

/-! ## Trees -/

/-- What stands at a place: a file with its bytes, or a directory. -/
inductive Node
  | file (bytes : ByteArray)
  | directory

/-- Nodes with the names on the way to them. Every place above one is a
directory too. -/
structure FileTree where
  nodes : List (List String × Node)

/-- A place that was reached: below the working directory, by the names on the
way, or above. -/
inductive Place
  | inside (names : List String)
  | outside

namespace FileTree

def empty : FileTree := ⟨[]⟩

/-- What stands at a place, if anything does. -/
def nodeAt? (tree : FileTree) : Place → Option Node
  | .outside => some .directory
  | .inside names =>
      match tree.nodes.lookup names with
      | some node => some node
      | none =>
          if names.isEmpty ||
              tree.nodes.any (fun entry => names.isPrefixOf entry.1) then
            some .directory
          else none

/-- Sets what stands at the names. -/
def put (tree : FileTree) (names : List String) (node : Node) : FileTree :=
  ⟨(names, node) :: tree.nodes.filter fun entry => entry.1 != names⟩

/-! ## Following a path -/

/-- The components of a path; a slash at the end leaves an empty one. -/
def components (path : String) : List String :=
  (pieces (· == '/') path.toList).map String.ofList

/-- The longest name and the longest path, in bytes. -/
def maxName : Nat := 255

def maxPath : Nat := 4095

/-- One component further. The place that is left must be a directory, and the
new place need not exist. -/
def enter (tree : FileTree) (place : Place) (component : String) :
    Except FileFault Place :=
  match tree.nodeAt? place with
  | none => .error .notFound
  | some (.file _) => .error .notDirectory
  | some .directory =>
      if component == "" || component == "." then .ok place
      else if component == ".." then
        match place with
        | .inside (name :: names) => .ok (.inside (name :: names).dropLast)
        | _ => .ok .outside
      else if maxName < component.utf8ByteSize then .error .nameTooLong
      else
        match place with
        | .inside names => .ok (.inside (names ++ [component]))
        | .outside => .error .notFound

/-- The place that a path leads to. -/
def follow (tree : FileTree) (path : String) : Except FileFault Place :=
  if path.toList.contains '\x00' then .error .nullInPath
  else if path.isEmpty then .error .notFound
  else if maxPath < path.utf8ByteSize then .error .nameTooLong
  else
    (components path).foldlM tree.enter
      (if path.startsWith "/" then .outside else .inside [])

/-! ## Operations -/

/-- The bytes of the file that a path leads to. -/
def read (tree : FileTree) (path : String) : Except FileFault (List UInt8) :=
  match tree.follow path with
  | .error fault => .error fault
  | .ok place =>
      match tree.nodeAt? place with
      | some (.file bytes) => .ok bytes.data.toList
      | some .directory => .error .isDirectory
      | none => .error .notFound

/-- The path without the slashes at its end. -/
def withoutSlash (path : String) : String :=
  String.ofList (path.toList.reverse.dropWhile (· == '/')).reverse

/-- The names of the file that a path leads to, whether it exists or could be
created. A path that ends in a slash names a directory. -/
def place (tree : FileTree) (path : String) : Except FileFault (List String) :=
  let bare := withoutSlash path
  if path != "" && bare == "" then .error .isDirectory
  else
    match tree.follow bare with
    | .error fault => .error fault
    | .ok .outside => .error .isDirectory
    | .ok (.inside names) =>
        if bare != path then .error .isDirectory
        else
          match tree.nodeAt? (.inside names) with
          | some .directory => .error .isDirectory
          | _ => .ok names

/-- The names of a file, and the tree with that file emptied, or created if it
does not exist. -/
def create (tree : FileTree) (path : String) :
    Except FileFault (List String × FileTree) :=
  (tree.place path).map fun names => (names, tree.put names (.file .empty))

/-- The tree with bytes put over those of a file from a place on. -/
def overwrite (tree : FileTree) (names : List String) (start : Nat)
    (bytes : List UInt8) : FileTree :=
  match tree.nodes.lookup names with
  | some (.file before) =>
      let bytes := bytes.toByteArray
      tree.put names (.file (bytes.copySlice 0 before start bytes.size))
  | _ => tree

/-- The tree with bytes added at the end of a file, which is created if it does
not exist. -/
def append (tree : FileTree) (path : String) (bytes : List UInt8) :
    Except FileFault FileTree :=
  (tree.place path).map fun names =>
    match tree.nodes.lookup names with
    | some (.file before) => tree.put names (.file (before ++ bytes.toByteArray))
    | _ => tree.put names (.file (bytes.toByteArray))

/-! ## Building a tree -/

/-- The tree with a file or an empty directory at a path. -/
def plant (tree : FileTree) (path : String) (node : Node) : FileTree :=
  match tree.follow path with
  | .ok (.inside names) => if names.isEmpty then tree else tree.put names node
  | _ =>
      let names := (components path).filter fun name => name != "" && name != "."
      if names.isEmpty then tree else tree.put names node

end FileTree

/-- The text of a file. -/
def readText (bytes : Except FileFault (List UInt8)) : Except FileFault String :=
  match bytes with
  | .error fault => .error fault
  | .ok bytes =>
      match Text.Utf8.decode? bytes with
      | some text => .ok text
      | none => .error .notText

end CounterTables
