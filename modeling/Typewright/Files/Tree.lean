/-
Trees of files: what is stored where.

An entry is found by the names that lead to it from the top. A tree has a current directory, at which
paths without a root start.
-/
import Typewright.Files.Error

namespace Typewright.Files

/-- The names that lead to an entry from the top. -/
abbrev Location := List String

/-- What is stored at a location. -/
inductive Entry where
  | directory
  | file (content : List UInt8)
deriving Repr, DecidableEq

/-- Entries by their locations, of which the first with a location counts, and the current
directory. The top is always a directory. -/
structure Tree where
  entries : List (Location × Entry) := []
  here : Location := []
deriving Repr

namespace Tree

/-- The entry at a location. -/
def find? (t : Tree) (l : Location) : Option Entry :=
  if l.isEmpty then some .directory else t.entries.lookup l

/-- A tree with an entry put in place of what was at its location. -/
def put (l : Location) (e : Entry) (t : Tree) : Tree :=
  { t with entries := (l, e) :: t.entries.filter (·.1 != l) }

/-! ## Following paths -/

/-- How many bytes a name may have. -/
def maxName : Nat := 255

/-- How many bytes the text of a path may have. -/
def maxPath : Nat := 4095

/-- The location that some names lead to from a location. -/
def walk (t : Tree) : Location → List String → Except Obstacle Location
  | l, [] => .ok l
  | l, n :: ns =>
    match t.find? l with
    | some .directory =>
      if n == ".." then walk t l.dropLast ns
      else if maxName < n.utf8ByteSize then .error .nameTooLong
      else if (t.find? (l ++ [n])).isSome then walk t (l ++ [n]) ns
      else .error .missing
    | some (.file _) => .error .notDirectory
    | none => .error .missing

/-- The location that a path leads to. -/
def locate (t : Tree) (p : Path) : Except Obstacle Location :=
  if maxPath < p.text.utf8ByteSize then .error .nameTooLong
  else t.walk (if p.isAbsolute then [] else t.here) p.names

/-- The entry that a path leads to. -/
def entry (t : Tree) (p : Path) : Except Obstacle Entry := do
  match t.find? (← t.locate p) with
  | some e => .ok e
  | none => .error .missing

/-- Whether a path leads to a directory. -/
def isDirectory (t : Tree) (p : Path) : Bool :=
  match t.entry p with
  | .ok .directory => true
  | _ => false

/-- The directory that a new entry at a path belongs to, and the name of the entry. -/
def place (t : Tree) (p : Path) : Except Obstacle Location := do
  let l ← t.locate p.parent
  match t.find? l with
  | some .directory =>
    if maxName < p.name.utf8ByteSize then .error .nameTooLong else .ok (l ++ [p.name])
  | _ => .error .notDirectory

/-! ## Operations -/

/-- The content of a file. -/
def read (t : Tree) (p : Path) : Except Obstacle (List UInt8) := do
  match ← t.entry p with
  | .file content => .ok content
  | .directory => .error .isDirectory

/-- Makes a directory in one that is there. -/
def makeDirectory (t : Tree) (p : Path) : Except Obstacle Tree :=
  if p.names.isEmpty then .error .exists
  else if p.name == ".." then do
    let _ ← t.locate p
    .error .exists
  else do
    let l ← t.place p
    if (t.find? l).isSome then .error .exists else .ok (t.put l .directory)

/-- Makes a directory, and before it those that it is to be in; `fuel` bounds how many. Answers with
the tree that is left where it fails. -/
def makeDirectories : Nat → Tree → Path → Tree × Option Error
  | fuel, t, p =>
    match t.makeDirectory p with
    | .ok t => (t, none)
    | .error .missing =>
      match fuel with
      | 0 => (t, some ⟨.missing, p⟩)
      | fuel + 1 =>
        match makeDirectories fuel t p.parent with
        | (t, some e) => (t, some e)
        | (t, none) =>
          match t.makeDirectory p with
          | .ok t => (t, none)
          | .error o => (t, if t.isDirectory p then none else some ⟨o, p⟩)
    | .error o => (t, if t.isDirectory p then none else some ⟨o, p⟩)

/-- How many bytes longer than the name of a file that of its draft is. -/
def draftMargin : Nat := 14

/-- Replaces a file in a directory that is there. The content is written to a draft beside the file,
which then takes its place, so the file is never seen half written. -/
def replaceFile (t : Tree) (p : Path) (content : List UInt8) : Except Obstacle Tree := do
  let l ← t.locate p.parent
  match t.find? l with
  | some .directory =>
    if maxName < p.name.utf8ByteSize + draftMargin then .error .nameTooLong
    else if p.names.isEmpty || p.name == ".." then .error .busy
    else match t.find? (l ++ [p.name]) with
      | some .directory => .error .isDirectory
      | _ => .ok (t.put (l ++ [p.name]) (.file content))
  | _ => .error .notDirectory

/-- Writes a file; the directories that it is to be in are made first. -/
def write (t : Tree) (p : Path) (content : List UInt8) : Tree × Option Error :=
  match makeDirectories p.names.length t p.parent with
  | (t, some e) => (t, some e)
  | (t, none) =>
    match t.replaceFile p content with
    | .ok t => (t, none)
    | .error o => (t, some ⟨o, p⟩)

end Tree

end Typewright.Files
