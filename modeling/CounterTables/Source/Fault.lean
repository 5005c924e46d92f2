/-!
# Faults of files and sources

What can go wrong when a file is read or written, and when a document is
fetched. `message` words a fault, and `chain` lists the messages of a fault and
of the faults behind it.
-/

namespace CounterTables

/-! ## Files -/

inductive FileFault
  | notFound
  | notDirectory
  | isDirectory
  | nameTooLong
  /-- The path holds a null character. -/
  | nullInPath
  /-- The bytes of the file are not UTF-8. -/
  | notText
  /-- Any other fault, in the system's words. -/
  | other (message : String)
  deriving DecidableEq

def FileFault.message : FileFault → String
  | notFound => "No such file or directory (os error 2)"
  | notDirectory => "Not a directory (os error 20)"
  | isDirectory => "Is a directory (os error 21)"
  | nameTooLong => "File name too long (os error 36)"
  | nullInPath => "file name contained an unexpected NUL byte"
  | notText => "stream did not contain valid UTF-8"
  | other message => message

/-! ## Sources -/

inductive SourceFault
  | file (path : String) (fault : FileFault)
  /-- Requests cannot be made at all. -/
  | client (message : String)
  /-- No answer came. -/
  | request (url message : String)
  /-- The answer says that there is no document. -/
  | refused (url : String) (status : Nat)
  | notText (location : String)
  /-- No entry of the catalog goes by this name. -/
  | unknownProduct (name : String)
  deriving DecidableEq

namespace SourceFault

def message : SourceFault → String
  | file path fault => s!"failed to read file {path}: {fault.message}"
  | client message => s!"failed to create HTTP client: {message}"
  | request url message => s!"request to {url} failed: {message}"
  | refused url status => s!"request to {url} returned HTTP {status}"
  | notText location => s!"document at {location} is not UTF-8 text"
  | unknownProduct name => s!"unknown product '{name}' (not in the catalog)"

/-- The message, and that of the file fault behind it. -/
def chain : SourceFault → List String
  | file path fault => [(file path fault).message, fault.message]
  | fault => [fault.message]

/-- Whether the document could not be had at all. -/
def isRetrieval : SourceFault → Bool
  | file _ _ => true
  | request _ _ => true
  | refused _ _ => true
  | client _ => false
  | notText _ => false
  | unknownProduct _ => false

end SourceFault

end CounterTables
