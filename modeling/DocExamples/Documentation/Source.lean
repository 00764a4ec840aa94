import DocExamples.Documentation.Reader
import DocExamples.Files.Tree
import DocExamples.Text.Lines
import DocExamples.Text.Utf8

namespace DocExamples.Documentation

open Text Files

/-- Where a documentation file is. -/
inductive Source
  | address (url : Text)
  | file (path : Path)
  deriving DecidableEq, Repr

structure Request where
  url : Text
  timeout : Nat
  deriving DecidableEq, Repr

def Request.ofUrl (url : Text) : Request := { url, timeout := 30 }

/-- Why nothing was fetched: the request failed, or another error came up meanwhile. -/
inductive FetchError
  | failed (message : Text)
  | other (kind message : Text)
  deriving DecidableEq, Repr

abbrev Fetch := Request → Except FetchError Bytes

inductive ReadFailure
  | access (error : AccessError)
  | undecodable (error : Utf8.DecodeError)
  deriving DecidableEq, Repr

def ReadFailure.message (path : Text) : ReadFailure → Text
  | access error => error.message path
  | undecodable error => error.message

/-- Why documentation cannot be loaded. Paths are given as they are shown. -/
inductive LoadError
  | missing (path : Text)
  /-- A path keeps documentation from being looked for. -/
  | inaccessible (path : Text) (error : AccessError)
  | unreadable (path : Text) (failure : ReadFailure)
  | unreachable (url message : Text)
  | other (kind message : Text)
  | undecodable (error : Utf8.DecodeError)
  | unparsed (error : ReadError)
  deriving DecidableEq, Repr

namespace LoadError

def message : LoadError → Text
  | missing path => "Missing XML documentation file \"".toList ++ path ++ "\".".toList
  | inaccessible path error => error.message path
  | unreadable path failure =>
    "Could not read documentation file \"".toList ++ path ++ "\": ".toList ++ failure.message path
  | unreachable url message =>
    "Could not fetch documentation from \"".toList ++ url ++ "\": ".toList ++ message
  | other _ message => message
  | undecodable error => error.message
  | unparsed error => error.message

/-- Errors that are reported to the user. The others end the program. -/
def isReported : LoadError → Bool
  | missing _ | unreadable _ _ | unreachable _ _ | unparsed .noDocElement => true
  | inaccessible _ _ | other _ _ | undecodable _ | unparsed _ => false

end LoadError

namespace Source

def schemes : List Text := ["http://".toList, "https://".toList]

/-- A text that starts with a scheme is an address, any other one a path. -/
def ofText (text : Text) : Source :=
  if schemes.any (·.isPrefixOf text) then .address text else .file (.ofText text)

def requests : Source → List Request
  | address url => [.ofUrl url]
  | file _ => []

end Source

/-- The first bytes of a byte order mark that is cut off. -/
def isCutMark (bytes : Bytes) : Bool := bytes == [0xEF] || bytes == [0xEF, 0xBB]

def decodeFile (bytes : Bytes) : Except Utf8.DecodeError Text :=
  if isCutMark bytes then .ok [] else (Utf8.decode (Utf8.dropMark bytes)).map unifyNewlines

def readText (tree : Tree) (path : Path) : Except ReadFailure Text := do
  (decodeFile (← (tree.read path).mapError .access)).mapError .undecodable

def readFile (tree : Tree) (path : Path) : Except LoadError Text :=
  match tree.isFile path with
  | .error error => .error (.inaccessible path.text error)
  | .ok false => .error (.missing path.text)
  | .ok true => (readText tree path).mapError (.unreadable path.text)

/-- The text at an address; its line ends are kept. -/
def readAddress (fetch : Fetch) (request : Request) : Except LoadError Text :=
  match fetch request with
  | .error (.failed message) => .error (.unreachable request.url message)
  | .error (.other kind message) => .error (.other kind message)
  | .ok bytes => (Utf8.decode (Utf8.dropMark bytes)).mapError .undecodable

def readSource (tree : Tree) (fetch : Fetch) : Source → Except LoadError Text
  | .address url => readAddress fetch (.ofUrl url)
  | .file path => readFile tree path

def load (tree : Tree) (fetch : Fetch) (source : Source) : Except LoadError (List Record) := do
  (parse (← readSource tree fetch source)).mapError .unparsed

end DocExamples.Documentation
