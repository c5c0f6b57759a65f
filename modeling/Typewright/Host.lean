/-
Hosts: what a run works on.

A run reads and writes files, fetches pages and tells about its progress. A world is a host that is a
value: a tree of files, the pages that there are, and the notices so far.
-/
import Typewright.Files.Tree
import Typewright.Notice

namespace Typewright

/-- What comes back for an address: a page with its status and, where it is elsewhere, its location,
or no answer at all. -/
inductive Reply where
  | page (status : Nat) (body : String) (location : Option String)
  | unreachable (reason : String)
deriving Repr, DecidableEq

/-- What a run works on. -/
class Host (m : Type → Type) where
  /-- The content of a file. -/
  read : Files.Path → m (Except Files.Failure (List UInt8))
  /-- Writes a file, after the directories that it is to be in. -/
  write : Files.Path → List UInt8 → m (Except Files.Failure Unit)
  /-- What comes back for an address. -/
  fetch : String → m Reply
  /-- Tells about the progress of the run. -/
  note : Notice → m Unit

/-- A tree of files, the pages by their addresses, and the notices so far. -/
structure World where
  files : Files.Tree := {}
  pages : List (String × Reply) := []
  notices : List Notice := []

/-- Work on a world. -/
abbrev Session := StateM World

namespace World

/-- Whether no file can have a path. -/
def isImpossible (p : Files.Path) : Bool := p.names.any fun n => n.toList.contains '\x00'

/-- The content of a file. -/
def read (w : World) (p : Files.Path) : Except Files.Failure (List UInt8) :=
  if isImpossible p then .error (.fault .value)
  else (w.files.read p).mapError fun o => .error ⟨o, p⟩

/-- Writes a file. -/
def write (w : World) (p : Files.Path) (content : List UInt8) : Except Files.Failure Unit × World :=
  if isImpossible p then (.error (.fault .value), w)
  else match w.files.write p content with
    | (files, none) => (.ok (), { w with files })
    | (files, some e) => (.error (.error e), { w with files })

/-- What comes back for an address; where there is no page the answer says so. -/
def fetch (w : World) (address : String) : Reply :=
  (w.pages.lookup address).getD (.page 404 "" none)

/-- Adds a notice. -/
def note (w : World) (n : Notice) : World := { w with notices := w.notices ++ [n] }

end World

instance : Host Session where
  read p := do return (← get).read p
  write p content := modifyGet fun w => w.write p content
  fetch address := do return (← get).fetch address
  note n := modify fun w => w.note n

end Typewright
