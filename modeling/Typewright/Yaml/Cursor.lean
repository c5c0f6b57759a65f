/-
Cursors: how far a YAML text has been scanned.

Behind its end a text holds the character of code zero, which no text holds itself.
-/
import Typewright.Yaml.Error

namespace Typewright.Yaml

/-! ## Classes of characters -/

/-- Ends a line or the text. -/
def isEnd (c : Char) : Bool := c == '\x00' || isBreak c

/-- A space, or an end of a line or of the text. -/
def isGap (c : Char) : Bool := c == ' ' || isEnd c

/-- A space, a tab, or an end of a line or of the text. -/
def isBlank (c : Char) : Bool := c == '\t' || isGap c

/-- Separates the words of a line. -/
def isSpace (c : Char) : Bool := c == ' ' || c == '\t'

/-- May stand in the name of an anchor, a directive or a tag handle. -/
def isWord (c : Char) : Bool :=
  Text.isAsciiDigit c || Text.isAsciiLower c || Text.isAsciiUpper c || c == '-' || c == '_'

/-- May stand in a text that is read as YAML. -/
def isAllowed (c : Char) : Bool :=
  c == '\t' || c == '\n' || c == '\r' || c == '\x85' || (0x20 ≤ c.toNat && c.toNat ≤ 0x7E) ||
    (0xA0 ≤ c.toNat && c.toNat ≤ 0xFFFD) || 0x10000 ≤ c.toNat

/-! ## Cursors -/

/-- The text that is left, and the place where it starts. -/
structure Cursor where
  rest : List Char
  place : Mark
deriving Repr, DecidableEq

namespace Cursor

/-- The cursor at the start of a text. -/
def ofText (text : List Char) : Cursor := ⟨text, ⟨0, 0, 0⟩⟩

/-- The character some characters further on. -/
def peekAt (c : Cursor) (n : Nat) : Char := c.rest.getD n '\x00'

/-- The next character. -/
def peek (c : Cursor) : Char := c.peekAt 0

/-- The place after one character; a carriage return ends a line unless a line feed follows it, and
a byte order mark has no width. -/
def placeAfter (m : Mark) (c : Char) (rest : List Char) : Mark :=
  if c == '\n' || c == '\x85' || c == '\u2028' || c == '\u2029' || (c == '\r' && rest.head? != some '\n')
  then ⟨m.index + 1, m.line + 1, 0⟩
  else if c == '\uFEFF' then ⟨m.index + 1, m.line, m.column⟩
  else ⟨m.index + 1, m.line, m.column + 1⟩

/-- The cursor after the next character. -/
def next (c : Cursor) : Cursor :=
  match c.rest with
  | [] => c
  | d :: rest => ⟨rest, placeAfter c.place d rest⟩

/-- The cursor some characters further on. -/
def skip : Nat → Cursor → Cursor
  | 0, c => c
  | n + 1, c => skip n c.next

/-- Whether the text that is left starts with one of the two document markers. -/
def atDocumentMarker (c : Cursor) : Bool :=
  (c.rest.take 3 == ['-', '-', '-'] || c.rest.take 3 == ['.', '.', '.']) && isBlank (c.peekAt 3)

end Cursor

/-- Work on a cursor. -/
abbrev Scanning := StateT Cursor (Except Stop)

namespace Scanning

/-- Stops with an error. -/
def fail {m : Type → Type} [MonadExceptOf Stop m] {α : Type} (context : Option (Context × Option Mark))
    (problem : Problem) (place : Mark) : m α :=
  throw (.error ⟨context, problem, place⟩)

/-- Stops at the cursor with an error in a context that started at a place. -/
def failIn {α : Type} (context : Context) (start : Mark) (problem : Problem) : Scanning α := do
  fail (some (context, some start)) problem (← get).place

/-- The place of the cursor. -/
def place : Scanning Mark := do return (← get).place

/-- The next character. -/
def peek : Scanning Char := do return (← get).peek

/-- The character some characters further on. -/
def peekAt (n : Nat) : Scanning Char := do return (← get).peekAt n

/-- Passes over some characters. -/
def skip (n : Nat) : Scanning Unit := modify (Cursor.skip n)

/-- Takes some characters. -/
def take (n : Nat) : Scanning (List Char) := do
  let taken := (← get).rest.take n
  skip n
  return taken

/-- Takes the characters up to the first that fails a test. -/
def takeWhile (p : Char → Bool) : Scanning (List Char) := do
  let taken := (← get).rest.takeWhile p
  skip taken.length
  return taken

/-- Passes over the characters up to the first that fails a test. -/
def skipWhile (p : Char → Bool) : Scanning Unit := do
  let _ ← takeWhile p

/-- A bound on the steps that the text left admits. -/
def bound : Scanning Nat := do return (← get).rest.length + 1

/-- Takes a line break, if there is one; all but two kinds of them are taken as a line feed. -/
def lineBreak : Scanning (List Char) := do
  let c ← peek
  if c == '\r' && (← peekAt 1) == '\n' then
    skip 2
    return ['\n']
  else if c == '\r' || c == '\n' || c == '\x85' then
    skip 1
    return ['\n']
  else if isBreak c then
    skip 1
    return [c]
  else return []

/-- Takes a comment, if there is one. -/
def comment : Scanning Unit := do
  if (← peek) == '#' then skipWhile fun c => !isEnd c

/-- Takes the rest of a line that may hold a comment only. -/
def restOfLine (context : Context) (start : Mark) : Scanning Unit := do
  skipWhile (· == ' ')
  comment
  let c ← peek
  if !isEnd c then failIn context start (.expected "a comment or a line break" c)
  let _ ← lineBreak

/-- Takes some hexadecimal digits, which are what is expected in a context. -/
def hexDigits (n : Nat) (what : String) (context : Context) (start : Mark) : Scanning Nat := do
  let digits := ((← get).rest.take n).takeWhile fun c => (Number.digitIn? 16 c).isSome
  if digits.length < n then failIn context start (.expected what (← peekAt digits.length))
  skip n
  return (Number.readNat? 16 digits).getD 0

end Scanning

end Typewright.Yaml
