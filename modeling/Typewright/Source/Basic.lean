/-
Sources: where the text of a document comes from.
-/
import Typewright.Document.Read
import Typewright.Host
import Typewright.Source.Url

namespace Typewright

/-- Where the text of a document comes from. -/
inductive Source where
  | file (path : Files.Path)
  | url (address : String)
  | text (name content : String)
  | bytes (name : String) (content : List UInt8)
deriving Repr, DecidableEq

namespace Source

/-- Whether a location is the address of a page. -/
def isAddress (location : String) : Bool :=
  "http://".toList.isPrefixOf location.toList || "https://".toList.isPrefixOf location.toList

/-- The source at a location: a page, or else a file. -/
def ofLocation (location : String) : Source :=
  if isAddress location then .url location else .file (.ofText location)

/-- The name of a source in messages. -/
def name : Source → String
  | .file path => path.text
  | .url address => address
  | .text name _ => name
  | .bytes name _ => name

end Source

/-- Why a source has no text. -/
inductive SourceProblem where
  | unreadable (path : Files.Path) (o : Files.Obstacle)
  | status (address : String) (code : Nat)
  | unreachable (address reason : String)
deriving Repr, DecidableEq

/-- A problem with a source in words. -/
def SourceProblem.message : SourceProblem → String
  | .unreadable path o => "Cannot read " ++ path.text ++ ": " ++ o.reason
  | .status address code => "Fetching " ++ address ++ " returned HTTP " ++ Nat.repr code
  | .unreachable address reason => "Cannot fetch " ++ address ++ ": " ++ reason

/-- Why no document could be loaded. -/
inductive LoadFailure where
  | source (p : SourceProblem)
  | document (f : Document.ReadFailure)

namespace Source

/-! ## Pages -/

/-- Whether a page with a status is at the location that it names. -/
def isElsewhere (status : Nat) : Bool := [301, 302, 303, 307, 308].contains status

/-- Whether a status says that the page was found. -/
def isSuccess (status : Nat) : Bool := 200 ≤ status && status < 300

/-- How many locations are followed from page to page. -/
def maxMoves : Nat := 20

/-- Fetches the page at an address, with at most some moves to other ones; `address` is the one that
was asked for. -/
def fetchFrom {m : Type → Type} [Monad m] [Host m] (address : String) (moves : Nat) (here : Url) :
    m (Except SourceProblem String) := do
  match ← Host.fetch here.text with
  | .unreachable reason => return .error (.unreachable address reason)
  | .page status body location =>
    match location.filter fun _ => isElsewhere status with
    | none => return found status body
    | some l =>
      match moves with
      | 0 => return .error (.unreachable address "Exceeded maximum allowed redirects.")
      | moves + 1 => fetchFrom address moves (here.resolve (.ofText l))
where
  /-- The text of a page that is not elsewhere. -/
  found (status : Nat) (body : String) : Except SourceProblem String :=
    if isSuccess status then .ok body else .error (.status address status)

/-! ## Documents -/

/-- Loads the document of a source, and tells that it was read. -/
def load {m : Type → Type} [Monad m] [Host m] (s : Source) : m (Except LoadFailure Value) := do
  match ← document with
  | .ok v =>
    Host.note (.parsed s.name (v.get "openapi"))
    return .ok v
  | .error e => return .error e
where
  /-- The document of the source. -/
  document : m (Except LoadFailure Value) := do
    match s with
    | .text name content => return (Document.read name content).mapError .document
    | .bytes name content => return (Document.readBytes name content).mapError .document
    | .file path =>
      match ← Host.read path with
      | .ok content => return (Document.readBytes s.name content).mapError .document
      | .error (.error e) => return .error (.source (.unreadable path e.obstacle))
      | .error (.fault f) => return .error (.document (.fault f))
    | .url address =>
      match ← fetchFrom address maxMoves (.ofText address) with
      | .ok body => return (Document.read s.name body).mapError .document
      | .error p => return .error (.source p)

end Source

end Typewright
