import CounterTables.Document.Loaded
import CounterTables.Log.Entry
import CounterTables.Source.FileTree

/-!
# Sources of documents

A source says where the document of an entry is and fetches it. Documents lie in
directories, one per family, or are served below a base URL in the same order of
names. What reads a file or answers a request does so in a monad of its own
choice.

A path is text, and joining paths is a matter of text: nothing is looked up and
nothing is simplified.

## Main definitions

* `Path.join` — one path seen from another.
* `FileReader`, `Responder` — what reads files and answers requests.
* `DocumentSource` — locating and fetching, for any entry.
* `DocumentSource.directory`, `DocumentSource.served` — the two kinds of source.
* `readLocation` — the bytes at a path or URL.
* `DocumentSource.load` — the document of an entry.
-/

namespace CounterTables

/-! ## Paths -/

namespace Path

def isAbsolute (path : String) : Bool :=
  path.startsWith "/"

/-- The path `part` seen from `base`. An absolute part stands for itself; else a
slash is put between the two where there is none, but not after an empty
base. -/
def join (base part : String) : String :=
  if isAbsolute part then part
  else if base.isEmpty || base.endsWith "/" then base ++ part
  else base ++ "/" ++ part

end Path

variable {m : Type → Type} [Monad m]

/-! ## Files -/

/-- What reads a file. -/
abbrev FileReader (m : Type → Type) := String → m (Except FileFault (List UInt8))

/-- The bytes of a file. -/
def readFile (files : FileReader m) (path : String) :
    m (Except SourceFault (List UInt8)) :=
  return (← files path).mapError (.file path)

/-! ## Requests -/

/-- The answer to a request. -/
structure Response where
  status : Nat
  body : List UInt8

/-- What an answer brings. An answer with status 204 brings nothing, whatever
follows it. -/
def Response.content (response : Response) : List UInt8 :=
  if response.status = 204 then [] else response.body

/-- What answers a request for a URL, or says why no answer comes. -/
abbrev Responder (m : Type → Type) := String → m (Except String Response)

/-- What requests are signed with. -/
def userAgent : String := "pmu-tables/0.1.0"

/-- The base URL with the slash that names are put behind. -/
def withSlash (base : String) : String :=
  if base.endsWith "/" then base else base ++ "/"

/-- The body of the answer for a URL. Answers other than successes count as
faults. -/
def bodyOf (url : String) : Except String Response → Except SourceFault (List UInt8)
  | .error message => .error (.request url message)
  | .ok response =>
      if 200 ≤ response.status && response.status < 300 then .ok response.content
      else .error (.refused url response.status)

/-- The body served for a URL. -/
def fetchUrl (respond : Responder m) (url : String) :
    m (Except SourceFault (List UInt8)) :=
  return bodyOf url (← respond url)

/-! ## Sources -/

structure DocumentSource (m : Type → Type) where
  locate : Entry → String
  fetch : Entry → m (Except SourceFault (List UInt8))
  /-- What is reported before an entry is fetched. -/
  announce : Entry → List Log.Entry

/-- The path of a document in the directory of its family below `root`. -/
def Entry.path (root : String) (entry : Entry) : String :=
  Path.join (Path.join root entry.family) entry.document

/-- The URL of a document under its family below a base URL. -/
def Entry.url (base : String) (entry : Entry) : String :=
  withSlash base ++ entry.family ++ "/" ++ entry.document

namespace DocumentSource

/-- Documents in the directories of their families below `root`. -/
def directory (files : FileReader m) (root : String) : DocumentSource m where
  locate := Entry.path root
  fetch entry := readFile files (entry.path root)
  announce entry :=
    [⟨.debug, "pmu_ingest::source", "reading document",
      [("path", .plain (entry.path root))]⟩]

/-- Documents served below a base URL. -/
def served (respond : Responder m) (base : String) : DocumentSource m where
  locate := Entry.url base
  fetch entry := fetchUrl respond (entry.url base)
  announce entry :=
    [⟨.debug, "pmu_ingest::source", "fetching document",
      [("url", .plain (entry.url base))]⟩]

/-- The document of an entry. -/
def load (source : DocumentSource m) (entry : Entry) :
    m (Except SourceFault Document) :=
  return (← source.fetch entry).bind (Document.parse (source.locate entry))

end DocumentSource

/-- Whether a location is a URL. -/
def isUrl (location : String) : Bool :=
  location.startsWith "http://" || location.startsWith "https://"

/-- The bytes at a path or URL. -/
def readLocation (files : FileReader m) (respond : Responder m) (location : String) :
    m (Except SourceFault (List UInt8)) :=
  if isUrl location then fetchUrl respond location else readFile files location

end CounterTables
