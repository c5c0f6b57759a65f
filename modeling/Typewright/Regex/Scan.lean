/-
Scanning a regular expression: its tokens, and what is known of its groups and flags so far.

A token is one character, or a backslash with the character after it. A backslash at the end of the
pattern is an error as soon as the scan has it before it.
-/
import Typewright.Number.Read
import Typewright.Regex.Syntax
import Typewright.Text.CharacterName

namespace Typewright.Regex

/-- A flag that can be set in a pattern. -/
inductive Flag where
  | ignoreCase
  | locale
  | multiline
  | dotAll
  | verbose
  | ascii
  | template
  | unicode
deriving Repr, DecidableEq

/-- The flag of a letter. -/
def Flag.ofToken? : List Char → Option Flag
  | ['i'] => some .ignoreCase
  | ['L'] => some .locale
  | ['m'] => some .multiline
  | ['s'] => some .dotAll
  | ['x'] => some .verbose
  | ['a'] => some .ascii
  | ['t'] => some .template
  | ['u'] => some .unicode
  | _ => none

/-- Whether a flag says which characters there are. -/
def Flag.isType (f : Flag) : Bool := f == .ascii || f == .locale || f == .unicode

/-- A scan: the text that is left with its offset, and what has been seen before it. The width of
a group is known once it is closed. -/
structure Scan where
  subject : Subject
  offset : Nat
  rest : List Char
  flags : List Flag := []
  names : List (List Char × Nat) := []
  widths : List (Option Width) := [none]
  behind : Option Nat := none
  expected : List (Nat × Nat) := []

/-- Work on a scan. -/
abbrev Scanning := StateT Scan (Except Refusal)

namespace Scan

/-- The token at the start of a text; empty at its end. -/
def token : List Char → List Char
  | [] => []
  | ['\\'] => ['\\']
  | '\\' :: c :: _ => ['\\', c]
  | c :: _ => [c]

/-- The next token; empty at the end of the pattern. -/
def next : Scanning (List Char) := do return token (← get).rest

/-- Stops with a cause at an offset. -/
def failAt {α : Type} (offset : Nat) (cause : Cause) : Scanning α :=
  throw (.malformed cause (some offset))

/-- Stops with a cause some characters before the next token. -/
def fail {α : Type} (cause : Cause) (back : Nat) : Scanning α := do
  failAt ((← get).offset - back) cause

/-- Refuses a backslash at the end of the pattern. -/
def checkNext : Scanning Unit := do
  match (← get).rest with
  | ['\\'] => fail .danglingBackslash 0
  | _ => return ()

/-- Takes the next token. -/
def take : Scanning (List Char) := do
  let t ← next
  modify fun s => { s with offset := s.offset + t.length, rest := s.rest.drop t.length }
  checkNext
  return t

/-- Takes the next token if it is a given character. -/
def accept (c : Char) : Scanning Bool := do
  if (← next) == [c] then
    let _ ← take
    return true
  else return false

/-- Takes at most so many tokens that pass the test. -/
def takeWhile (p : Char → Bool) : Nat → Scanning (List Char)
  | 0 => return []
  | n + 1 => do
    match ← next with
    | [c] =>
      if p c then
        let _ ← take
        return c :: (← takeWhile p n)
      else return []
    | _ => return []

/-- Takes a name with the mark after it; `done` has been taken of it, in reverse. -/
def takeName (mark : Char) (what : String) : Nat → List Char → Scanning (List Char)
  | 0, done => return done
  | fuel + 1, done => do
    let t ← take
    if t.isEmpty then
      if done.isEmpty then fail (.missing what) 0 else fail (.unterminatedName mark) done.length
    else if t == [mark] then
      if done.isEmpty then fail (.missing what) 1 else return done.reverse
    else takeName mark what fuel (t.reverse ++ done)

/-- Takes a name with the mark after it. -/
def nameUntil (mark : Char) (what : String) : Scanning (List Char) := do
  takeName mark what ((← get).rest.length + 1) []

/-- Refuses a name that is not an identifier. -/
def checkName (name : List Char) : Scanning Unit :=
  if Text.isIdentifier name then return () else fail (.groupName name) (name.length + 1)

/-! ## Groups -/

/-- The number of groups, with the whole pattern as one. -/
def groups : Scanning Nat := do return (← get).widths.length

/-- The width of a group that is closed. -/
def closed? (group : Nat) : Scanning (Option Width) := do
  return ((← get).widths[group]?).join

/-- Refuses to refer to a group that is open or new inside of a look-behind. -/
def checkBehind (group : Nat) : Scanning Unit := do
  match (← get).behind with
  | none => return ()
  | some first =>
    if (← closed? group).isNone then fail .openGroup 0
    else if first ≤ group then fail .sameLookBehind 0
    else return ()

/-- A reference to a closed group, `back` characters after the start of the reference. -/
def backReference (group back : Nat) : Scanning Node := do
  match ← closed? group with
  | none => fail .openGroup back
  | some w =>
    checkBehind group
    return .back w

/-- Opens a group. -/
def openGroup (name : Option (List Char)) : Scanning Nat := do
  let number ← groups
  modify fun s => { s with widths := s.widths ++ [none] }
  match name with
  | none => return number
  | some name =>
    match (← get).names.lookup name with
    | some earlier => fail (.groupAgain name number earlier) (name.length + 1)
    | none =>
      modify fun s => { s with names := s.names ++ [(name, number)] }
      return number

/-- Closes a group. -/
def closeGroup (number : Nat) (body : List Node) : Scanning Unit :=
  modify fun s => { s with widths := s.widths.set number (some (widthOf body).capped) }

end Scan

/-! ## Escapes -/

/-- What an escape stands for: a character by its code, a class of characters, or a part of the
expression. -/
inductive Escaped where
  | char (code : Nat)
  | chars
  | node (n : Node)

/-- Hexadecimal digits. -/
def isHexDigit (c : Char) : Bool := (Number.digitIn? 16 c).isSome

/-- Octal digits. -/
def isOctalDigit (c : Char) : Bool := (Number.digitIn? 8 c).isSome

/-- The number that digits write. -/
def numeral (base : Nat) (digits : List Char) : Nat := (Number.readNat? base digits).getD 0

/-- The control characters with an escape of their own. -/
def controlEscape? : Char → Option Nat
  | 'a' => some 7
  | 'f' => some 12
  | 'n' => some 10
  | 'r' => some 13
  | 't' => some 9
  | 'v' => some 11
  | '\\' => some 92
  | _ => none

/-- The rest of an escape with a fixed number of hexadecimal digits. -/
def hexEscape (letter : Char) (count : Nat) : Scanning Escaped := do
  let digits ← Scan.takeWhile isHexDigit count
  let escape := '\\' :: letter :: digits
  let code := numeral 16 digits
  if digits.length != count then Scan.fail (.incompleteEscape escape) escape.length
  else if 0x10FFFF < code then Scan.fail (.badEscape escape) escape.length
  else return .char code

/-- The rest of an escape that names a character. -/
def namedEscape : Scanning Escaped := do
  if !(← Scan.accept '\x7b') then Scan.fail (.missing "\x7b") 0
  else
    let name ← Scan.nameUntil '\x7d' "character name"
    match Text.named? name with
    | some code => return .char code
    | none => Scan.fail (.characterName name) (name.length + 4)

/-- The character of octal digits. -/
def octalEscape (digits : List Char) : Scanning Escaped :=
  let code := numeral 8 digits
  if 0o377 < code then Scan.fail (.octalEscape ('\\' :: digits)) (digits.length + 1)
  else return .char code

/-- The rest of an escape without a meaning of its own: letters have none, and other characters
stand for themselves. -/
def plainEscape (c : Char) : Scanning Escaped :=
  if Text.isAsciiLower c || Text.isAsciiUpper c then Scan.fail (.badEscape ['\\', c]) 2
  else return .char c.toNat

/-- The rest of an escape that is the same everywhere. Code points and names of characters have a
meaning in texts only. -/
def commonEscape (c : Char) : Scanning Escaped := do
  let inText := (← get).subject == .texts
  match controlEscape? c, c, inText with
  | some code, _, _ => return .char code
  | none, 'x', _ => hexEscape 'x' 2
  | none, 'u', true => hexEscape 'u' 4
  | none, 'U', true => hexEscape 'U' 8
  | none, 'N', true => namedEscape
  | none, c, _ => if "dDsSwW".toList.contains c then return .chars else plainEscape c

/-- The rest of an escape in a set. -/
def setEscape (c : Char) : Scanning Escaped :=
  if c == 'b' then return .char 8
  else if isOctalDigit c then do octalEscape (c :: (← Scan.takeWhile isOctalDigit 2))
  else if Text.isAsciiDigit c then Scan.fail (.badEscape ['\\', c]) 2
  else commonEscape c

/-- The rest of an escape that starts with a digit: a group, or a character in three octal
digits. -/
def digitEscape (c : Char) : Scanning Escaped := do
  let second ← Scan.takeWhile Text.isAsciiDigit 1
  let digits := c :: second
  let third ←
    if !second.isEmpty && digits.all isOctalDigit then Scan.takeWhile isOctalDigit 1
    else pure []
  if !third.isEmpty then octalEscape (digits ++ third)
  else
    let group := numeral 10 digits
    if group < (← Scan.groups) then
      return .node (← Scan.backReference group (digits.length + 1))
    else Scan.fail (.groupReference group) digits.length

/-- The rest of an escape outside of a set. -/
def escape (c : Char) : Scanning Escaped :=
  if "AbBZ".toList.contains c then return .node .anchor
  else if c == '0' then do
    return .char (numeral 8 (c :: (← Scan.takeWhile isOctalDigit 2)))
  else if Text.isAsciiDigit c then digitEscape c
  else commonEscape c

end Typewright.Regex
